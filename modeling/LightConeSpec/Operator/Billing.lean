import LightConeSpec.Lib.Binary64
import LightConeSpec.Lib.Grouping
import LightConeSpec.Lib.Machine
import LightConeSpec.Lib.Python
import LightConeSpec.Lib.Rows
import Mathlib.Algebra.Order.Field.Rat
import Mathlib.Data.List.Pairwise
import Mathlib.Data.Prod.Lex

/-!
# Provider billing

Runtime samples of the provider are recorded one by one and reduced to the boot
intervals of each instance. A sample is compared with the samples of its own
lifecycle only, while the reduction also compares the lifecycles of an instance
with each other: it succeeds exactly when no sample says that an instance was
up after a later boot of it. What it charges is computed in floats, and is the
exact product of time and GPUs only for some of them: `exactlyBilled_iff_dvd`.

`sample_id`, the SHA-256 of the canonical JSON of a sample, is a parameter; no
result depends on what it is.
-/

namespace Operator

open Python Machine List Option

/-- `ProviderRuntimeSample.state`. -/
inductive ProviderState
  | running
  | shutdown
deriving DecidableEq

/-- `_SHA256.fullmatch(value)`. -/
def isSha256 (value : String) : Bool :=
  value.length == 64 && value.toList.all fun c => c.isDigit || ('a' ≤ c && c ≤ 'f')

/-- `ProviderRuntimeSample`, with the checks of its `__post_init__`. -/
@[ext] structure ProviderRuntimeSample where
  instanceUuid : String
  state : ProviderState
  observedAtNs : Int
  providerStartedAtNs : Int
  providerStoppedAtNs : Option Int
  gpuCount : Nat
  responseSha256 : String
  uuid_text : requireText "provider instance UUID" instanceUuid = .ok ()
  started_pos : 0 < providerStartedAtNs
  started_le : providerStartedAtNs ≤ observedAtNs
  gpu_pos : 1 ≤ gpuCount
  response_valid : isSha256 responseSha256 = true
  running_open : state = .running → providerStoppedAtNs = none
  shutdown_stopped : state = .shutdown → ∃ stop ∈ providerStoppedAtNs,
    providerStartedAtNs < stop ∧ stop ≤ observedAtNs

instance : DecidableEq ProviderRuntimeSample := fun _ _ =>
  decidable_of_iff' _ ProviderRuntimeSample.ext_iff

namespace ProviderRuntimeSample

/-- The boot that a sample belongs to. -/
def lifecycle (sample : ProviderRuntimeSample) : String ×ₗ Int :=
  toLex (sample.instanceUuid, sample.providerStartedAtNs)

/-- The columns of the `UNIQUE` constraint. -/
def observation (sample : ProviderRuntimeSample) : String × Int × String :=
  (sample.instanceUuid, sample.observedAtNs, sample.responseSha256)

/-- The time until which a sample says that its instance was up. -/
def upUntil (sample : ProviderRuntimeSample) : Int :=
  sample.providerStoppedAtNs.getD sample.observedAtNs

theorem stopped_or_running (sample : ProviderRuntimeSample) :
    (∃ stop, stop ∈ sample.providerStoppedAtNs) ∨
      sample.state = .running ∧ sample.providerStoppedAtNs = none := by
  cases hstate : sample.state with
  | running => exact .inr ⟨rfl, sample.running_open hstate⟩
  | shutdown =>
    obtain ⟨stop, hstop, _⟩ := sample.shutdown_stopped hstate
    exact .inl ⟨stop, hstop⟩

theorem started_le_upUntil (sample : ProviderRuntimeSample) :
    sample.providerStartedAtNs ≤ sample.upUntil := by
  unfold upUntil
  cases hstate : sample.state with
  | running =>
    rw [sample.running_open hstate]
    exact sample.started_le
  | shutdown =>
    obtain ⟨stop, hstop, hlt, _⟩ := sample.shutdown_stopped hstate
    rw [mem_def.mp hstop]
    exact hlt.le

end ProviderRuntimeSample

variable {e : (String ×ₗ Int) × List ProviderRuntimeSample} {sample : ProviderRuntimeSample}
  {table : List ProviderRuntimeSample}

variable {r : ProviderRuntimeSample}

namespace Billing

section

variable (sampleId : ProviderRuntimeSample → String)

/-- `record_provider_runtime_sample`: the rows of `provider_runtime_samples` after
the call, or the error that rolled it back. -/
def recordProviderRuntimeSample (table : List ProviderRuntimeSample)
    (sample : ProviderRuntimeSample) : Except Error (List ProviderRuntimeSample) :=
  if table.any fun row => sampleId row = sampleId sample then pure table
  else do
    let lifecycle := sortedBy (fun row => toLex (row.observedAtNs, sampleId row))
      (table.filter fun row => row.lifecycle = sample.lifecycle)
    require (∀ row ∈ lifecycle, row.gpuCount = sample.gpuCount)
      (operatorError "provider lifecycle changed its GPU count")
    let knownStops := (lifecycle.filterMap (·.providerStoppedAtNs) ++
      sample.providerStoppedAtNs.toList).dedup
    require (knownStops.length ≤ 1)
      (operatorError "provider lifecycle has conflicting stop times")
    let runningObservations := (lifecycle.filter (·.state = .running)).map (·.observedAtNs) ++
      if sample.state = .running then [sample.observedAtNs] else []
    require (∀ stop ∈ knownStops.head?, ∀ observed ∈ runningObservations, observed ≤ stop)
      (operatorError "provider running observation follows its stop time")
    require (∀ row ∈ table, row.observation ≠ sample.observation)
      (integrityError ("UNIQUE constraint failed: provider_runtime_samples.instance_uuid, " ++
        "provider_runtime_samples.observed_at_ns, provider_runtime_samples.response_sha256"))
    pure (table ++ [sample])

/-- A call: a failed one leaves the table. -/
def step (table : List ProviderRuntimeSample) (sample : ProviderRuntimeSample) :
    Except Error Unit × List ProviderRuntimeSample :=
  match recordProviderRuntimeSample sampleId table sample with
  | .ok table' => (.ok (), table')
  | .error e => (.error e, table)

end

/-! ## The reduction -/

/-- `(stopped_ns - started_ns) / 1e9`, in floats; nothing overflows for the 64-bit integers of the
columns. -/
def secondsOf (ns : Int) : ℚ := Binary64.round (Binary64.round ns / 10 ^ 9)

/-- `duration_seconds * gpu_count`, in floats. -/
def billedOf (seconds : ℚ) (gpuCount : Nat) : ℚ :=
  Binary64.round (seconds * Binary64.round gpuCount)

/-- A row of `provider_billing_intervals`. -/
structure BillingInterval where
  instanceUuid : String
  providerStartedAtNs : Int
  providerStoppedOrObservedAtNs : Int
  complete : Bool
  gpuCount : Nat
  durationSeconds : ℚ
  wholeInstanceBilledGpuSeconds : ℚ
  sampleCount : Nat
  responseSha256s : List String

def BillingInterval.lifecycle (i : BillingInterval) : String ×ₗ Int :=
  toLex (i.instanceUuid, i.providerStartedAtNs)

/-- The stop times of a lifecycle. -/
def stoppedValues (samples : List ProviderRuntimeSample) : List Int :=
  (samples.filterMap (·.providerStoppedAtNs)).dedup

/-- The end of a lifecycle: its stop time, or the latest observation. -/
def stoppedNs (samples : List ProviderRuntimeSample) : Except Error Int :=
  match (stoppedValues samples).head? with
  | some stop => pure stop
  | none =>
    match (samples.map (·.observedAtNs)).max? with
    | some latest => pure latest
    | none => .error (valueError "max() iterable argument is empty")

def billingInterval (key : String ×ₗ Int) (samples : List ProviderRuntimeSample)
    (stopped : Int) (gpuCount : Nat) : BillingInterval :=
  let durationSeconds := secondsOf (stopped - (ofLex key).2)
  { instanceUuid := (ofLex key).1
    providerStartedAtNs := (ofLex key).2
    providerStoppedOrObservedAtNs := stopped
    complete := !(stoppedValues samples).isEmpty
    gpuCount := gpuCount
    durationSeconds := durationSeconds
    wholeInstanceBilledGpuSeconds := billedOf durationSeconds gpuCount
    sampleCount := samples.length
    responseSha256s := sortedSet (samples.map (·.responseSha256)) }

/-- The loop over the lifecycles; `previousEnd` is `previous_end_by_instance`. -/
def billingLoop (previousEnd : Dict String Int) :
    List ((String ×ₗ Int) × List ProviderRuntimeSample) → Except Error (List BillingInterval)
  | [] => pure []
  | (key, samples) :: rest => do
    let gpuCounts := (samples.map (·.gpuCount)).dedup
    require (gpuCounts.length = 1 ∧ (stoppedValues samples).length ≤ 1)
      (operatorError "provider billing lifecycle is internally inconsistent")
    let stopped ← stoppedNs samples
    require (∀ previous ∈ previousEnd.get? (ofLex key).1, previous ≤ (ofLex key).2)
      (operatorError "provider billing intervals overlap for one instance")
    let intervals ← billingLoop (previousEnd.set (ofLex key).1 stopped) rest
    pure (billingInterval key samples stopped (gpuCounts.head?.getD 0) :: intervals)

/-- The rows of `provider_billing_intervals`, in the order of its query. -/
def orderedRows (sampleId : ProviderRuntimeSample → String) (table : List ProviderRuntimeSample) :
    List ProviderRuntimeSample :=
  sortedBy (fun row => toLex (row.lifecycle, toLex (row.observedAtNs, sampleId row))) table

def providerBillingIntervals (sampleId : ProviderRuntimeSample → String)
    (table : List ProviderRuntimeSample) : Except Error (List BillingInterval) :=
  billingLoop Dict.empty (Dict.group (·.lifecycle) (orderedRows sampleId table)).entries

/-! ## Acceptance -/

/-- What two samples that are both recorded satisfy. -/
structure Compatible (sampleId : ProviderRuntimeSample → String) (a b : ProviderRuntimeSample) :
    Prop where
  sampleId : sampleId a ≠ sampleId b
  observation : a.observation ≠ b.observation
  gpuCount : a.lifecycle = b.lifecycle → a.gpuCount = b.gpuCount
  stops : a.lifecycle = b.lifecycle →
    ∀ stop ∈ a.providerStoppedAtNs, ∀ stop' ∈ b.providerStoppedAtNs, stop = stop'
  running : a.lifecycle = b.lifecycle →
    ∀ stop ∈ a.providerStoppedAtNs, b.state = .running → b.observedAtNs ≤ stop
  running' : a.lifecycle = b.lifecycle →
    ∀ stop ∈ b.providerStoppedAtNs, a.state = .running → a.observedAtNs ≤ stop

section

variable {sampleId : ProviderRuntimeSample → String}

theorem Compatible.symm {a b : ProviderRuntimeSample} (h : Compatible sampleId a b) :
    Compatible sampleId b a :=
  ⟨h.sampleId.symm, h.observation.symm, fun hl => (h.gpuCount hl.symm).symm,
    fun hl stop hstop stop' hstop' => (h.stops hl.symm stop' hstop' stop hstop).symm,
    fun hl => h.running' hl.symm, fun hl => h.running hl.symm⟩

instance : Std.Symm (Compatible sampleId) := ⟨fun _ _ h => h.symm⟩

/-- A running sample carries no stop time. -/
theorem not_running_of_stopped {stop : Int} (h : stop ∈ sample.providerStoppedAtNs) :
    sample.state ≠ .running := by
  intro hstate
  rw [sample.running_open hstate] at h
  cases h

/-- The three checks of a sample against the rows of its lifecycle. -/
theorem lifecycle_checks_iff {rows : List ProviderRuntimeSample}
    (hrows : ∀ a ∈ rows, ∀ b ∈ rows, a = b ∨ Compatible sampleId a b)
    (hlife : ∀ row ∈ rows, row.lifecycle = sample.lifecycle) :
    ((∀ row ∈ rows, row.gpuCount = sample.gpuCount) ∧ (rows.filterMap (·.providerStoppedAtNs) ++
        sample.providerStoppedAtNs.toList).dedup.length ≤ 1 ∧
      ∀ stop ∈ (rows.filterMap (·.providerStoppedAtNs) ++
          sample.providerStoppedAtNs.toList).dedup.head?,
        ∀ observed ∈ (rows.filter (·.state = .running)).map (·.observedAtNs) ++
          (if sample.state = .running then [sample.observedAtNs] else []), observed ≤ stop) ↔
    ∀ row ∈ rows, row.gpuCount = sample.gpuCount ∧
      (∀ stop ∈ row.providerStoppedAtNs, ∀ stop' ∈ sample.providerStoppedAtNs, stop = stop') ∧
      (∀ stop ∈ row.providerStoppedAtNs, sample.state = .running → sample.observedAtNs ≤ stop) ∧
      ∀ stop ∈ sample.providerStoppedAtNs, row.state = .running → row.observedAtNs ≤ stop := by
  have hstop : ∀ stop, stop ∈ rows.filterMap (·.providerStoppedAtNs) ++
      sample.providerStoppedAtNs.toList ↔
      (∃ row ∈ rows, stop ∈ row.providerStoppedAtNs) ∨ stop ∈ sample.providerStoppedAtNs := by
    intro stop
    simp [mem_def]
  have hobserved : ∀ observed, observed ∈ (rows.filter (·.state = .running)).map (·.observedAtNs) ++
      (if sample.state = .running then [sample.observedAtNs] else []) ↔
      (∃ row ∈ rows, row.state = .running ∧ row.observedAtNs = observed) ∨
        sample.state = .running ∧ sample.observedAtNs = observed := by
    intro observed
    by_cases hstate : sample.state = .running
    · simp [hstate, and_assoc, eq_comm]
    · simp [hstate, and_assoc]
  constructor
  · rintro ⟨hgpu, hstops, hrunning⟩ row hrow
    rw [length_dedup_le_one_iff] at hstops
    have hrow' : ∀ stop ∈ row.providerStoppedAtNs, stop ∈ rows.filterMap (·.providerStoppedAtNs) ++
        sample.providerStoppedAtNs.toList := fun stop h => (hstop stop).mpr (.inl ⟨row, hrow, h⟩)
    have hsample : ∀ stop ∈ sample.providerStoppedAtNs,
        stop ∈ rows.filterMap (·.providerStoppedAtNs) ++ sample.providerStoppedAtNs.toList :=
      fun stop h => (hstop stop).mpr (.inr h)
    refine ⟨hgpu row hrow, ?_, ?_, ?_⟩
    · intro stop h stop' h'
      exact hstops stop (hrow' stop h) stop' (hsample stop' h')
    · intro stop h hstate
      have hhead := head?_dedup_eq_some (hrow' stop h) fun a ha => hstops a ha stop (hrow' stop h)
      exact hrunning stop hhead _ ((hobserved _).mpr (.inr ⟨hstate, rfl⟩))
    · intro stop h hstate
      have hhead := head?_dedup_eq_some (hsample stop h)
        fun a ha => hstops a ha stop (hsample stop h)
      exact hrunning stop hhead _ ((hobserved _).mpr (.inl ⟨row, hrow, hstate, rfl⟩))
  · intro h
    have hlifecycle : ∀ a ∈ rows, ∀ b ∈ rows, a.lifecycle = b.lifecycle :=
      fun a ha b hb => (hlife a ha).trans (hlife b hb).symm
    refine ⟨fun row hrow => (h row hrow).1, length_dedup_le_one_iff.mpr ?_, ?_⟩
    · -- both stops are of stored rows, or one is of the sample
      intro stop hmem stop' hmem'
      rcases (hstop stop).mp hmem with ⟨row, hrow, hs⟩ | hs <;>
        rcases (hstop stop').mp hmem' with ⟨row', hrow', hs'⟩ | hs'
      · rcases hrows row hrow row' hrow' with rfl | hcompatible
        · exact mem_unique hs hs'
        · exact hcompatible.stops (hlifecycle row hrow row' hrow') stop hs stop' hs'
      · exact (h row hrow).2.1 stop hs stop' hs'
      · exact ((h row' hrow').2.1 stop' hs' stop hs).symm
      · exact mem_unique hs hs'
    · intro stop hhead observed hmem
      have hmemStop := mem_dedup.mp (mem_of_mem_head? hhead)
      rcases (hstop stop).mp hmemStop with ⟨row, hrow, hs⟩ | hs <;>
        rcases (hobserved observed).mp hmem with ⟨row', hrow', hstate, rfl⟩ | ⟨hstate, rfl⟩
      · rcases hrows row hrow row' hrow' with rfl | hcompatible
        · exact absurd hstate (not_running_of_stopped hs)
        · exact hcompatible.running (hlifecycle row hrow row' hrow') stop hs hstate
      · exact (h row hrow).2.2.1 stop hs hstate
      · exact (h row' hrow').2.2.2 stop hs hstate
      · exact absurd hstate (not_running_of_stopped hs)

/-- A sample is stored exactly when it is compatible with every stored one. -/
theorem recordProviderRuntimeSample_eq_ok (h : table.Pairwise (Compatible sampleId))
    {table' : List ProviderRuntimeSample} :
    recordProviderRuntimeSample sampleId table sample = .ok table' ↔
      ((∃ row ∈ table, sampleId row = sampleId sample) ∧ table' = table) ∨
        ((∀ row ∈ table, Compatible sampleId row sample) ∧ table' = table ++ [sample]) := by
  unfold recordProviderRuntimeSample
  by_cases hknown : ∃ row ∈ table, sampleId row = sampleId sample
  · have hany : (table.any fun row => sampleId row = sampleId sample) = true := by
      simpa using hknown
    rw [if_pos hany]
    simp only [pure_eq_ok, hknown, true_and]
    -- a sample that is already recorded changes nothing
    constructor
    · rintro rfl
      exact .inl rfl
    · rintro (rfl | ⟨hall, _⟩)
      · rfl
      · obtain ⟨row, hrow, hid⟩ := hknown
        exact absurd hid (hall row hrow).sampleId
  · have hany : ¬ (table.any fun row => sampleId row = sampleId sample) = true := by
      simpa using hknown
    rw [if_neg hany]
    simp only [bind_eq_ok, check_eq_ok, pure_eq_ok, hknown, false_and, false_or]
    have hmem : ∀ row, row ∈ sortedBy (fun row => toLex (row.observedAtNs, sampleId row))
        (table.filter fun row => row.lifecycle = sample.lifecycle) ↔
        row ∈ table ∧ row.lifecycle = sample.lifecycle := by
      intro row
      simp
    generalize sortedBy (fun row => toLex (row.observedAtNs, sampleId row))
      (table.filter fun row => row.lifecycle = sample.lifecycle) = rows at hmem
    have hrows : ∀ a ∈ rows, ∀ b ∈ rows, a = b ∨ Compatible sampleId a b := by
      intro a ha b hb
      by_cases heq : a = b
      · exact .inl heq
      · exact .inr (h.forall ((hmem a).mp ha).1 ((hmem b).mp hb).1 heq)
    -- the checks of the lifecycle are pairwise ones
    have hchecks := lifecycle_checks_iff hrows fun row hrow => ((hmem row).mp hrow).2
    constructor
    · rintro ⟨hgpu, hstops, hrunning, hunique, rfl⟩
      have hfits := hchecks.mp ⟨hgpu, hstops, hrunning⟩
      refine ⟨fun row hrow => ⟨fun hid => hknown ⟨row, hrow, hid⟩, hunique row hrow,
        fun hl => ?_, fun hl => ?_, fun hl => ?_, fun hl => ?_⟩, rfl⟩
      · exact (hfits row ((hmem row).mpr ⟨hrow, hl⟩)).1
      · exact (hfits row ((hmem row).mpr ⟨hrow, hl⟩)).2.1
      · exact (hfits row ((hmem row).mpr ⟨hrow, hl⟩)).2.2.1
      · exact (hfits row ((hmem row).mpr ⟨hrow, hl⟩)).2.2.2
    · rintro ⟨hall, rfl⟩
      obtain ⟨hgpu, hstops, hrunning⟩ := hchecks.mpr fun row hrow => by
        obtain ⟨hrow, hl⟩ := (hmem row).mp hrow
        have hrow := hall row hrow
        exact ⟨hrow.gpuCount hl, hrow.stops hl, hrow.running hl, hrow.running' hl⟩
      exact ⟨hgpu, hstops, hrunning, fun row hrow => (hall row hrow).observation, rfl⟩

/-- The stored samples are pairwise compatible. -/
theorem step_compatible (h : table.Pairwise (Compatible sampleId))
    (sample : ProviderRuntimeSample) :
    (step sampleId table sample).2.Pairwise (Compatible sampleId) := by
  unfold step
  cases hrecord : recordProviderRuntimeSample sampleId table sample with
  | error e => exact h
  | ok table' =>
    rcases (recordProviderRuntimeSample_eq_ok h).mp hrecord with ⟨_, rfl⟩ | ⟨hall, rfl⟩
    · exact h
    · rw [pairwise_append]
      refine ⟨h, pairwise_singleton _ _, fun row hrow other hother => ?_⟩
      rw [mem_singleton.mp hother]
      exact hall row hrow

theorem final_compatible (samples : List ProviderRuntimeSample) :
    (final (step sampleId) [] samples).Pairwise (Compatible sampleId) := by
  suffices h : ∀ table : List ProviderRuntimeSample, table.Pairwise (Compatible sampleId) →
      (final (step sampleId) table samples).Pairwise (Compatible sampleId) from
    h [] List.Pairwise.nil
  induction samples with
  | nil => exact fun table h => h
  | cons sample rest ih => exact fun table h => ih _ (step_compatible h sample)

/-- Compatible samples are all stored, in whatever order they come. -/
theorem final_of_compatible {samples : List ProviderRuntimeSample}
    (h : (table ++ samples).Pairwise (Compatible sampleId)) :
    final (step sampleId) table samples = table ++ samples := by
  induction samples generalizing table with
  | nil => simp
  | cons sample rest ih =>
    have hsplit := pairwise_append.mp h
    have hstep : recordProviderRuntimeSample sampleId table sample = .ok (table ++ [sample]) :=
      (recordProviderRuntimeSample_eq_ok hsplit.1).mpr
        (.inr ⟨fun row hrow => hsplit.2.2 row hrow sample mem_cons_self, rfl⟩)
    rw [final_cons, step, hstep]
    rw [ih (by simpa using h)]
    simp

end

/-! ## One lifecycle -/

/-- The samples of one lifecycle that were all recorded. -/
structure Lifecycle (samples : List ProviderRuntimeSample) : Prop where
  nonempty : samples ≠ []
  gpuCount : ∀ a ∈ samples, ∀ b ∈ samples, a.gpuCount = b.gpuCount
  stops : ∀ a ∈ samples, ∀ b ∈ samples,
    ∀ stop ∈ a.providerStoppedAtNs, ∀ stop' ∈ b.providerStoppedAtNs, stop = stop'
  running : ∀ a ∈ samples, ∀ b ∈ samples,
    ∀ stop ∈ a.providerStoppedAtNs, b.state = .running → b.observedAtNs ≤ stop

/-- The end of a lifecycle, once it is known that there is one. -/
def endNs (samples : List ProviderRuntimeSample) : Int :=
  (stoppedNs samples).toOption.getD 0

def gpuCountOf (samples : List ProviderRuntimeSample) : Nat :=
  (samples.map (·.gpuCount)).dedup.head?.getD 0

theorem mem_stoppedValues {samples : List ProviderRuntimeSample} {stop : Int} :
    stop ∈ stoppedValues samples ↔ ∃ r ∈ samples, stop ∈ r.providerStoppedAtNs := by
  simp [stoppedValues, mem_def]

namespace Lifecycle

variable {samples : List ProviderRuntimeSample}

section

variable (h : Lifecycle samples)

include h

theorem length_gpuCounts : (samples.map (·.gpuCount)).dedup.length = 1 := by
  have hle : (samples.map (·.gpuCount)).dedup.length ≤ 1 := by
    rw [length_dedup_le_one_iff]
    intro a ha b hb
    obtain ⟨r, hr, rfl⟩ := mem_map.mp ha
    obtain ⟨r', hr', rfl⟩ := mem_map.mp hb
    exact h.gpuCount r hr r' hr'
  have hpos : 0 < (samples.map (·.gpuCount)).dedup.length := by
    obtain ⟨r, hr⟩ := exists_mem_of_ne_nil _ h.nonempty
    exact length_pos_of_mem (mem_dedup.mpr (mem_map.mpr ⟨r, hr, rfl⟩))
  omega

theorem gpuCountOf_eq (hr : r ∈ samples) : gpuCountOf samples = r.gpuCount := by
  unfold gpuCountOf
  rw [head?_dedup_eq_some (mem_map.mpr ⟨r, hr, rfl⟩)]
  · rfl
  · intro a ha
    obtain ⟨r', hr', rfl⟩ := mem_map.mp ha
    exact h.gpuCount r' hr' r hr

theorem length_stoppedValues : (stoppedValues samples).length ≤ 1 := by
  unfold stoppedValues
  rw [length_dedup_le_one_iff]
  intro stop hstop stop' hstop'
  obtain ⟨a, ha, hs⟩ := mem_filterMap.mp hstop
  obtain ⟨b, hb, hs'⟩ := mem_filterMap.mp hstop'
  exact h.stops a ha b hb stop hs stop' hs'

/-- The end of a stopped lifecycle. -/
theorem stoppedNs_of_stop (hr : r ∈ samples) {stop : Int} (hstop : stop ∈ r.providerStoppedAtNs) :
    stoppedNs samples = .ok stop := by
  have hhead : (stoppedValues samples).head? = some stop := by
    unfold stoppedValues
    refine head?_dedup_eq_some (mem_filterMap.mpr ⟨r, hr, hstop⟩) fun a ha => ?_
    obtain ⟨b, hb, hs⟩ := mem_filterMap.mp ha
    exact h.stops b hb r hr a hs stop hstop
  unfold stoppedNs
  rw [hhead]
  rfl

/-- The end of an open lifecycle. -/
theorem stoppedNs_of_open (hopen : ∀ r ∈ samples, r.providerStoppedAtNs = none) :
    ∃ latest, stoppedNs samples = .ok latest ∧ (∃ r ∈ samples, r.observedAtNs = latest) ∧
      ∀ r ∈ samples, r.observedAtNs ≤ latest := by
  have hhead : (stoppedValues samples).head? = none := by
    rw [head?_eq_none_iff, eq_nil_iff_forall_not_mem]
    intro stop hstop
    obtain ⟨r, hr, hs⟩ := mem_stoppedValues.mp hstop
    rw [hopen r hr] at hs
    cases hs
  obtain ⟨latest, hlatest⟩ : ∃ latest, (samples.map (·.observedAtNs)).max? = some latest := by
    cases hmax : (samples.map (·.observedAtNs)).max? with
    | none => exact absurd (map_eq_nil_iff.mp (max?_eq_none_iff.mp hmax)) h.nonempty
    | some latest => exact ⟨latest, rfl⟩
  obtain ⟨hmem, hmax⟩ := max?_eq_some_iff.mp hlatest
  refine ⟨latest, ?_, mem_map.mp hmem, fun r hr => hmax _ (mem_map.mpr ⟨r, hr, rfl⟩)⟩
  unfold stoppedNs
  rw [hhead, hlatest]
  rfl

/-- The end is the latest time that a sample says its instance was up. -/
theorem endNs_spec : stoppedNs samples = .ok (endNs samples) ∧
    (∃ r ∈ samples, r.upUntil = endNs samples) ∧ ∀ r ∈ samples, r.upUntil ≤ endNs samples := by
  by_cases hstopped : ∃ r ∈ samples, ∃ stop, stop ∈ r.providerStoppedAtNs
  · obtain ⟨r, hr, stop, hstop⟩ := hstopped
    have hend : endNs samples = stop := by
      rw [endNs, h.stoppedNs_of_stop hr hstop]
      rfl
    rw [hend]
    refine ⟨h.stoppedNs_of_stop hr hstop, ⟨r, hr, ?_⟩, fun other hother => ?_⟩
    · rw [ProviderRuntimeSample.upUntil, mem_def.mp hstop]
      rfl
    · unfold ProviderRuntimeSample.upUntil
      rcases other.stopped_or_running with ⟨stop', hstop'⟩ | ⟨hstate, hnone⟩
      · rw [mem_def.mp hstop']
        exact (h.stops other hother r hr stop' hstop' stop hstop).le
      · rw [hnone]
        exact h.running r hr other hother stop hstop hstate
  · have hopen : ∀ r ∈ samples, r.providerStoppedAtNs = none := by
      intro r hr
      cases hs : r.providerStoppedAtNs with
      | none => rfl
      | some stop => exact absurd ⟨r, hr, stop, hs⟩ hstopped
    obtain ⟨latest, hlatest, ⟨r, hr, hobserved⟩, hmax⟩ := h.stoppedNs_of_open hopen
    have hend : endNs samples = latest := by
      rw [endNs, hlatest]
      rfl
    rw [hend]
    refine ⟨hlatest, ⟨r, hr, ?_⟩, fun other hother => ?_⟩
    · rw [ProviderRuntimeSample.upUntil, hopen r hr]
      exact hobserved
    · rw [ProviderRuntimeSample.upUntil, hopen other hother]
      exact hmax other hother

end

end Lifecycle

/-! ## The loop -/

def entryInterval (entry : (String ×ₗ Int) × List ProviderRuntimeSample) : BillingInterval :=
  billingInterval entry.1 entry.2 (endNs entry.2) (gpuCountOf entry.2)

/-- The loop succeeds exactly when the lifecycles of an instance follow each
other. -/
theorem billingLoop_eq_ok {entries : List ((String ×ₗ Int) × List ProviderRuntimeSample)}
    (hlife : ∀ e ∈ entries, Lifecycle e.2) (hstart : ∀ e ∈ entries, (ofLex e.1).2 ≤ endNs e.2)
    {previousEnd : Dict String Int} {intervals : List BillingInterval} :
    billingLoop previousEnd entries = .ok intervals ↔
      (∀ e ∈ entries, ∀ previous ∈ previousEnd.get? (ofLex e.1).1, previous ≤ (ofLex e.1).2) ∧
      entries.Pairwise (fun e e' => (ofLex e.1).1 = (ofLex e'.1).1 → endNs e.2 ≤ (ofLex e'.1).2) ∧
      intervals = entries.map entryInterval := by
  induction entries generalizing previousEnd intervals with
  | nil =>
    simp only [billingLoop, pure_eq_ok, map_nil, not_mem_nil, false_implies,
      implies_true, List.Pairwise.nil, true_and]
    exact eq_comm
  | cons entry rest ih =>
    obtain ⟨key, samples⟩ := entry
    have hentry : Lifecycle samples := hlife (key, samples) mem_cons_self
    have hle : (ofLex key).2 ≤ endNs samples := hstart (key, samples) mem_cons_self
    have ih := fun prev out => @ih (fun e he => hlife e (mem_cons_of_mem _ he))
      (fun e he => hstart e (mem_cons_of_mem _ he)) prev out
    simp only [billingLoop, bind_eq_ok, check_eq_ok, pure_eq_ok, hentry.length_gpuCounts,
      hentry.length_stoppedValues, and_self, true_and, hentry.endNs_spec.1, Except.ok.injEq,
      exists_eq_left', ih, forall_mem_cons, pairwise_cons, map_cons]
    constructor
    · rintro ⟨hfirst, out, ⟨hrest, hpairs, rfl⟩, rfl⟩
      -- the end of this lifecycle is the bound of the next one of the instance
      have hafter : ∀ e ∈ rest, (ofLex key).1 = (ofLex e.1).1 →
          endNs samples ≤ (ofLex e.1).2 := by
        intro e he hsame
        refine hrest e he (endNs samples) ?_
        rw [mem_def, Dict.get?_set, if_pos hsame.symm]
      refine ⟨⟨hfirst, fun e he previous hprevious => ?_⟩, ⟨hafter, hpairs⟩, rfl⟩
      by_cases hsame : (ofLex e.1).1 = (ofLex key).1
      · rw [hsame] at hprevious
        exact (hfirst previous hprevious).trans (hle.trans (hafter e he hsame.symm))
      · refine hrest e he previous ?_
        rw [mem_def, Dict.get?_set, if_neg hsame]
        exact hprevious
    · rintro ⟨⟨hfirst, hrest⟩, ⟨hafter, hpairs⟩, rfl⟩
      refine ⟨hfirst, _, ⟨fun e he previous hprevious => ?_, hpairs, rfl⟩, rfl⟩
      rw [mem_def, Dict.get?_set] at hprevious
      by_cases hsame : (ofLex e.1).1 = (ofLex key).1
      · rw [if_pos hsame, Option.some.injEq] at hprevious
        rw [← hprevious]
        exact hafter e he hsame.symm
      · rw [if_neg hsame] at hprevious
        exact hrest e he previous hprevious

/-! ## The whole table -/

section

variable {sampleId : ProviderRuntimeSample → String} {table : List ProviderRuntimeSample}

theorem mem_orderedRows {row : ProviderRuntimeSample} :
    row ∈ orderedRows sampleId table ↔ row ∈ table :=
  mem_sortedBy

theorem orderedRows_sorted :
    (orderedRows sampleId table).Pairwise fun a b => a.lifecycle ≤ b.lifecycle := by
  refine (sortedBy_pairwise _ table).imp fun {a b} h => ?_
  rcases Prod.Lex.toLex_le_toLex.mp h with hlt | ⟨heq, _⟩
  · exact hlt.le
  · exact heq.le

/-- The query does not depend on the order in which the rows were inserted. -/
theorem orderedRows_perm (h : table.Pairwise (Compatible sampleId))
    {order : List ProviderRuntimeSample} (hperm : order.Perm table) :
    orderedRows sampleId order = orderedRows sampleId table := by
  refine (sortedBy_congr ?_ hperm.symm).symm
  rw [List.Nodup, pairwise_map]
  refine h.imp fun {a b} hcompatible heq => hcompatible.sampleId ?_
  exact congrArg (fun k => (ofLex (ofLex k).2).2) heq

theorem mem_entries_lifecycle
    (he : e ∈ (Dict.group (·.lifecycle) (orderedRows sampleId table)).entries) :
    e.2 ≠ [] ∧ ∀ r, r ∈ e.2 ↔ r ∈ table ∧ r.lifecycle = e.1 := by
  obtain ⟨key, samples⟩ := e
  obtain ⟨hkey, rfl⟩ := Dict.mem_group.mp he
  have hmem : ∀ r, r ∈ (orderedRows sampleId table).filter (fun row => row.lifecycle = key) ↔
      r ∈ table ∧ r.lifecycle = key := by
    intro r
    rw [mem_filter, mem_orderedRows, decide_eq_true_eq]
  refine ⟨?_, hmem⟩
  obtain ⟨r, hr, hlife⟩ := mem_map.mp hkey
  exact ne_nil_of_mem ((hmem r).mpr ⟨mem_orderedRows.mp hr, hlife⟩)

theorem lifecycle_of_mem_entries (h : table.Pairwise (Compatible sampleId))
    (he : e ∈ (Dict.group (·.lifecycle) (orderedRows sampleId table)).entries) : Lifecycle e.2 := by
  obtain ⟨hne, hmem⟩ := mem_entries_lifecycle he
  have hpair : ∀ a ∈ e.2, ∀ b ∈ e.2, a.lifecycle = b.lifecycle ∧
      (a = b ∨ Compatible sampleId a b) := by
    intro a ha b hb
    obtain ⟨ha, hla⟩ := (hmem a).mp ha
    obtain ⟨hb, hlb⟩ := (hmem b).mp hb
    refine ⟨hla.trans hlb.symm, ?_⟩
    by_cases heq : a = b
    · exact .inl heq
    · exact .inr (h.forall ha hb heq)
  refine ⟨hne, fun a ha b hb => ?_, fun a ha b hb stop hs stop' hs' => ?_,
    fun a ha b hb stop hs hstate => ?_⟩
  · obtain ⟨hlife, rfl | hcompatible⟩ := hpair a ha b hb
    · rfl
    · exact hcompatible.gpuCount hlife
  · obtain ⟨hlife, rfl | hcompatible⟩ := hpair a ha b hb
    · exact mem_unique hs hs'
    · exact hcompatible.stops hlife stop hs stop' hs'
  · obtain ⟨hlife, rfl | hcompatible⟩ := hpair a ha b hb
    · exact absurd hstate (not_running_of_stopped hs)
    · exact hcompatible.running hlife stop hs hstate

theorem started_of_mem_entries
    (he : e ∈ (Dict.group (·.lifecycle) (orderedRows sampleId table)).entries) (hr : r ∈ e.2) :
    r.instanceUuid = (ofLex e.1).1 ∧ r.providerStartedAtNs = (ofLex e.1).2 := by
  have hlife := (((mem_entries_lifecycle he).2 r).mp hr).2
  rw [← hlife]
  exact ⟨rfl, rfl⟩

theorem exists_entry (hr : r ∈ table) : ∃ e ∈ (Dict.group (·.lifecycle)
    (orderedRows sampleId table)).entries, e.1 = r.lifecycle ∧ r ∈ e.2 := by
  have hmem : r ∈ orderedRows sampleId table := mem_orderedRows.mpr hr
  refine ⟨(r.lifecycle, _), Dict.mem_group.mpr ⟨mem_map.mpr ⟨r, hmem, rfl⟩, rfl⟩, rfl, ?_⟩
  exact mem_filter.mpr ⟨hmem, by simp⟩

/-- No sample says that an instance was up after a later boot of it. -/
def Consistent (table : List ProviderRuntimeSample) : Prop :=
  ∀ r ∈ table, ∀ r' ∈ table, r.instanceUuid = r'.instanceUuid →
    r.providerStartedAtNs < r'.providerStartedAtNs → r.upUntil ≤ r'.providerStartedAtNs

instance (table : List ProviderRuntimeSample) : Decidable (Consistent table) :=
  inferInstanceAs (Decidable (∀ r ∈ table, ∀ r' ∈ table, _ → _ → _))

/-- The condition in terms of the lifecycles that the reduction compares. -/
theorem consistent_iff (h : table.Pairwise (Compatible sampleId)) :
    Consistent table ↔ (Dict.group (·.lifecycle) (orderedRows sampleId table)).entries.Pairwise
      (fun e e' => (ofLex e.1).1 = (ofLex e'.1).1 → endNs e.2 ≤ (ofLex e'.1).2) := by
  have hsorted : ((Dict.group (·.lifecycle) (orderedRows sampleId table)).entries.map
      Prod.fst).Pairwise (· < ·) := Dict.keys_group_sorted orderedRows_sorted
  constructor
  · intro hconsistent
    refine List.Pairwise.imp_of_mem ?_ (pairwise_map.mp hsorted)
    intro e e' he he' hlt hsame
    -- the end of the first lifecycle is that of one of its samples
    obtain ⟨r, hr, hend⟩ := (lifecycle_of_mem_entries h he).endNs_spec.2.1
    obtain ⟨r', hr'⟩ := exists_mem_of_ne_nil _ (mem_entries_lifecycle he').1
    obtain ⟨huuid, hstart⟩ := started_of_mem_entries he hr
    obtain ⟨huuid', hstart'⟩ := started_of_mem_entries he' hr'
    rw [← hend, ← hstart']
    refine hconsistent r (((mem_entries_lifecycle he).2 r).mp hr).1 r'
      (((mem_entries_lifecycle he').2 r').mp hr').1 (huuid.trans (hsame.trans huuid'.symm)) ?_
    rw [hstart, hstart']
    rcases Prod.Lex.lt_iff.mp hlt with hlt | ⟨_, hlt⟩
    · exact absurd hsame hlt.ne
    · exact hlt
  · intro hpairs r hr r' hr' huuid hlt
    obtain ⟨e, he, hkey, hre⟩ := @exists_entry r sampleId _ hr
    obtain ⟨e', he', hkey', hre'⟩ := @exists_entry r' sampleId _ hr'
    have hkeys : e.1 < e'.1 := by
      rw [hkey, hkey']
      exact Prod.Lex.toLex_lt_toLex.mpr (.inr ⟨huuid, hlt⟩)
    have hend := Rows.rel_of_key_lt hsorted hpairs he he' hkeys (by rw [hkey, hkey']; exact huuid)
    calc r.upUntil ≤ endNs e.2 := (lifecycle_of_mem_entries h he).endNs_spec.2.2 r hre
      _ ≤ (ofLex e'.1).2 := hend
      _ = r'.providerStartedAtNs := by rw [hkey']; rfl

/-- The reduction of stored samples. -/
theorem providerBillingIntervals_eq_ok (h : table.Pairwise (Compatible sampleId))
    {intervals : List BillingInterval} :
    providerBillingIntervals sampleId table = .ok intervals ↔ Consistent table ∧
      intervals = (Dict.group (·.lifecycle) (orderedRows sampleId table)).entries.map
        entryInterval := by
  have hlife := fun e he => lifecycle_of_mem_entries (e := e) h he
  have hstart : ∀ e ∈ (Dict.group (·.lifecycle) (orderedRows sampleId table)).entries,
      (ofLex e.1).2 ≤ endNs e.2 := by
    intro e he
    obtain ⟨r, hr⟩ := exists_mem_of_ne_nil _ (mem_entries_lifecycle he).1
    rw [← (started_of_mem_entries he hr).2]
    exact r.started_le_upUntil.trans ((hlife e he).endNs_spec.2.2 r hr)
  unfold providerBillingIntervals
  rw [billingLoop_eq_ok hlife hstart, consistent_iff h]
  constructor
  · rintro ⟨_, hpairs, hintervals⟩
    exact ⟨hpairs, hintervals⟩
  · rintro ⟨hpairs, hintervals⟩
    exact ⟨fun _ _ _ hprevious => (by cases hprevious), hpairs, hintervals⟩

/-- What an interval charges: the GPUs of its lifecycle from its start to its
stop, or to the latest observation while it is open. -/
structure Charges (table : List ProviderRuntimeSample) (i : BillingInterval) : Prop where
  gpuCount : ∀ r ∈ table, r.lifecycle = i.lifecycle → r.gpuCount = i.gpuCount
  stopped : ∀ r ∈ table, r.lifecycle = i.lifecycle → ∀ stop ∈ r.providerStoppedAtNs,
    i.complete = true ∧ i.providerStoppedOrObservedAtNs = stop
  latest : (∀ r ∈ table, r.lifecycle = i.lifecycle → r.providerStoppedAtNs = none) →
    i.complete = false ∧
      (∃ r ∈ table, r.lifecycle = i.lifecycle ∧
        r.observedAtNs = i.providerStoppedOrObservedAtNs) ∧
      ∀ r ∈ table, r.lifecycle = i.lifecycle → r.observedAtNs ≤ i.providerStoppedOrObservedAtNs
  billed : i.wholeInstanceBilledGpuSeconds = i.gpuCount *
    (((i.providerStoppedOrObservedAtNs - i.providerStartedAtNs : Int) : ℚ) / 10 ^ 9)

/-- The float arithmetic of the charge is exact for this time. -/
def ExactlyBilled (gpuCount : Nat) (ns : Int) : Prop :=
  billedOf (secondsOf ns) gpuCount = gpuCount * ((ns : ℚ) / 10 ^ 9)

/-- For a number of GPUs that is prime to 5, such as a power of two, the exact times are the
multiples of 1953125 ns. -/
theorem exactlyBilled_iff_dvd {gpuCount ns : Nat} (hprime : Nat.Coprime 5 gpuCount)
    (hgpus : gpuCount < 2 ^ 53) (hns : ns < 2 ^ 53) (hcharge : gpuCount * ns < 2 ^ 53 * 5 ^ 9) :
    ExactlyBilled gpuCount ns ↔ 5 ^ 9 ∣ ns := by
  constructor
  · intro h
    obtain ⟨n, k, hround⟩ := Binary64.exists_round (secondsOf ns * Binary64.round gpuCount)
    unfold ExactlyBilled billedOf at h
    -- with the power of two on the left, both sides are integers
    obtain ⟨i, j, hk⟩ : ∃ i j : ℕ, k = i - j := ⟨k.toNat, (-k).toNat, by omega⟩
    have hint : (gpuCount * ns * 2 ^ j : ℤ) = n * 2 ^ i * (2 ^ 9 * 5 ^ 9) := by
      have hq : (gpuCount * ns * 2 ^ j : ℚ) = n * 2 ^ i * (2 ^ 9 * 5 ^ 9) := by
        rw [hround, hk, zpow_sub₀ two_ne_zero, zpow_natCast, zpow_natCast, Int.cast_natCast] at h
        field_simp at h
        norm_num at h ⊢
        linarith
      exact_mod_cast hq
    have hdvd : 5 ^ 9 ∣ gpuCount * ns * 2 ^ j := by
      have : ((5 ^ 9 : ℕ) : ℤ) ∣ (gpuCount * ns * 2 ^ j : ℕ) :=
        ⟨n * 2 ^ i * 2 ^ 9, by push_cast; rw [hint]; ring⟩
      exact_mod_cast this
    have htwo := (Nat.Coprime.pow 9 j (by decide : Nat.Coprime 5 2)).dvd_of_dvd_mul_right hdvd
    exact (hprime.pow_left 9).dvd_of_dvd_mul_left htwo
  · rintro ⟨m, rfl⟩
    have hm : gpuCount * m < 2 ^ 53 := by
      have : gpuCount * m * 5 ^ 9 < 2 ^ 53 * 5 ^ 9 := by
        calc gpuCount * m * 5 ^ 9 = gpuCount * (5 ^ 9 * m) := by ring
          _ < _ := hcharge
      exact lt_of_mul_lt_mul_right this (Nat.zero_le _)
    have hseconds : secondsOf ((5 ^ 9 * m : ℕ) : Int) = (m : Int) * 2 ^ (-9 : Int) := by
      rw [secondsOf, Binary64.round_intCast (by rw [Nat.abs_cast]; exact_mod_cast hns),
        ← Binary64.round_eq_self (by rw [Nat.abs_cast]; norm_cast; omega)]
      congr 1
      push_cast
      ring
    unfold ExactlyBilled billedOf
    have hcount : Binary64.round (gpuCount : ℚ) = gpuCount := by
      exact_mod_cast Binary64.round_intCast (n := gpuCount) (by rw [Nat.abs_cast]; exact_mod_cast hgpus)
    have hproduct : ((m : Int) * 2 ^ (-9 : Int) * gpuCount : ℚ) =
        ((gpuCount * m : ℕ) : Int) * 2 ^ (-9 : Int) := by
      push_cast
      ring
    rw [hseconds, hcount, hproduct,
      Binary64.round_eq_self (by rw [Nat.abs_cast]; exact_mod_cast hm)]
    push_cast
    ring

example : billedOf (secondsOf 1) 3 ≠ 3 * (1 / 10 ^ 9) := by decide +kernel

/-- The time of each lifecycle, at its last sample, is charged exactly. -/
def ChargedExactly (table : List ProviderRuntimeSample) : Prop :=
  ∀ r ∈ table, (∀ r' ∈ table, r'.lifecycle = r.lifecycle → r'.upUntil ≤ r.upUntil) →
    ExactlyBilled r.gpuCount (r.upUntil - r.providerStartedAtNs)

/-- The lifecycles of the reduction are those of the last samples. -/
theorem chargedExactly_iff (h : table.Pairwise (Compatible sampleId)) : ChargedExactly table ↔
    ∀ e ∈ (Dict.group (·.lifecycle) (orderedRows sampleId table)).entries,
      ExactlyBilled (gpuCountOf e.2) (endNs e.2 - (ofLex e.1).2) := by
  constructor
  · intro hexact e he
    have hlife := lifecycle_of_mem_entries h he
    obtain ⟨_, hmem⟩ := mem_entries_lifecycle he
    obtain ⟨-, ⟨r, hr, hend⟩, hmax⟩ := hlife.endNs_spec
    obtain ⟨hrow, hkey⟩ := (hmem r).mp hr
    rw [hlife.gpuCountOf_eq hr, ← hend, ← (started_of_mem_entries he hr).2]
    refine hexact r hrow fun r' hr' hsame => ?_
    rw [hend]
    exact hmax r' ((hmem r').mpr ⟨hr', hsame.trans hkey⟩)
  · intro hexact r hr hlast
    obtain ⟨e, he, hkey, hre⟩ := exists_entry hr
    have hlife := lifecycle_of_mem_entries h he
    obtain ⟨_, hmem⟩ := mem_entries_lifecycle he
    obtain ⟨-, ⟨r', hr', hend⟩, hmax⟩ := hlife.endNs_spec
    obtain ⟨hrow', hkey'⟩ := (hmem r').mp hr'
    have hle := hlast r' hrow' (hkey'.trans hkey)
    have heq : endNs e.2 = r.upUntil := (hend ▸ hle).antisymm (hmax r hre)
    have := hexact e he
    rwa [hlife.gpuCountOf_eq hre, heq, ← (started_of_mem_entries he hre).2] at this

/-- The interval of a lifecycle charges all its samples. -/
theorem charges_entryInterval (h : table.Pairwise (Compatible sampleId))
    (he : e ∈ (Dict.group (·.lifecycle) (orderedRows sampleId table)).entries)
    (hexact : ExactlyBilled (gpuCountOf e.2) (endNs e.2 - (ofLex e.1).2)) :
    Charges table (entryInterval e) := by
  obtain ⟨_, hmem⟩ := mem_entries_lifecycle he
  have hlife := lifecycle_of_mem_entries h he
  have hend : ∀ stop, stoppedNs e.2 = .ok stop → endNs e.2 = stop := by
    intro stop hstop
    rw [endNs, hstop]
    rfl
  refine ⟨fun r hr hkey => ?_, fun r hr hkey stop hstop => ⟨?_, ?_⟩, fun hopen => ⟨?_, ?_⟩, ?_⟩
  · exact (hlife.gpuCountOf_eq ((hmem r).mpr ⟨hr, hkey⟩)).symm
  · have hvalues : stop ∈ stoppedValues e.2 :=
      mem_stoppedValues.mpr ⟨r, (hmem r).mpr ⟨hr, hkey⟩, hstop⟩
    show (!(stoppedValues e.2).isEmpty) = true
    rw [Bool.not_eq_true', isEmpty_eq_false_iff]
    exact ne_nil_of_mem hvalues
  · exact hend stop (hlife.stoppedNs_of_stop ((hmem r).mpr ⟨hr, hkey⟩) hstop)
  · have hvalues : stoppedValues e.2 = [] := by
      rw [eq_nil_iff_forall_not_mem]
      intro stop hstop
      obtain ⟨r, hr, hs⟩ := mem_stoppedValues.mp hstop
      obtain ⟨hr, hkey⟩ := (hmem r).mp hr
      rw [hopen r hr hkey] at hs
      cases hs
    show (!(stoppedValues e.2).isEmpty) = false
    rw [hvalues]
    rfl
  · obtain ⟨latest, hlatest, ⟨r, hr, hobserved⟩, hmax⟩ := hlife.stoppedNs_of_open fun r hr =>
      hopen r ((hmem r).mp hr).1 ((hmem r).mp hr).2
    obtain ⟨hr, hkey⟩ := (hmem r).mp hr
    refine ⟨⟨r, hr, hkey, hobserved.trans (hend latest hlatest).symm⟩, fun r hr hkey => ?_⟩
    exact (hmax r ((hmem r).mpr ⟨hr, hkey⟩)).trans (hend latest hlatest).ge
  · exact hexact

/-- The ledger is reducible: the reduction returns one interval for each
lifecycle, disjoint for each instance and charged exactly, and the samples could
have been recorded in any order. -/
structure Reducible (sampleId : ProviderRuntimeSample → String)
    (table : List ProviderRuntimeSample) : Prop where
  reduces : ∃ intervals, providerBillingIntervals sampleId table = .ok intervals ∧
    intervals.Pairwise (fun i i' => i.instanceUuid = i'.instanceUuid →
      i.providerStoppedOrObservedAtNs ≤ i'.providerStartedAtNs) ∧
    (intervals.map (·.lifecycle)).Nodup ∧
    (∀ key, key ∈ intervals.map (·.lifecycle) ↔ key ∈ table.map (·.lifecycle)) ∧
    ∀ i ∈ intervals, Charges table i
  orderFree : ∀ order, order.Perm table → final (step sampleId) [] order = order ∧
    providerBillingIntervals sampleId order = providerBillingIntervals sampleId table

/-- The accepted samples are reducible exactly when no sample says that an instance was up after a
later boot of it, and the floats charge each lifecycle exactly. -/
theorem provider_ledger_reducible_iff (sampleId : ProviderRuntimeSample → String)
    (samples : List ProviderRuntimeSample) :
    Reducible sampleId (final (step sampleId) [] samples) ↔
      Consistent (final (step sampleId) [] samples) ∧
        ChargedExactly (final (step sampleId) [] samples) := by
  have h : (final (step sampleId) [] samples).Pairwise (Compatible sampleId) :=
    final_compatible samples
  generalize final (step sampleId) [] samples = table at h
  rw [chargedExactly_iff h]
  constructor
  · rintro ⟨⟨intervals, hok, -, -, -, hcharges⟩, -⟩
    obtain ⟨hconsistent, rfl⟩ := (providerBillingIntervals_eq_ok h).mp hok
    refine ⟨hconsistent, fun e he => ?_⟩
    exact (hcharges (entryInterval e) (mem_map_of_mem he)).billed
  · rintro ⟨hconsistent, hexact⟩
    have hok := (providerBillingIntervals_eq_ok h).mpr ⟨hconsistent, rfl⟩
    refine ⟨⟨_, hok, ?_, ?_, ?_, ?_⟩, ?_⟩
    · exact List.pairwise_map.mpr ((consistent_iff h).mp hconsistent)
    · rw [List.map_map]
      exact (Dict.group (·.lifecycle) (orderedRows sampleId table)).nodup
    · intro key
      rw [List.map_map]
      show key ∈ (Dict.group (·.lifecycle) (orderedRows sampleId table)).entries.map Prod.fst ↔ _
      rw [Dict.mem_keys_group]
      simp only [List.mem_map, mem_orderedRows]
    · intro i hi
      obtain ⟨e, he, rfl⟩ := List.mem_map.mp hi
      exact charges_entryInterval h he (hexact e he)
    · intro order hperm
      have horder := (hperm.pairwise_iff Compatible.symm).mpr h
      refine ⟨final_of_compatible (by simpa using horder), ?_⟩
      unfold providerBillingIntervals
      rw [orderedRows_perm h hperm]

end

def Sample.response (digit : Char) : String := String.ofList (List.replicate 64 digit)

theorem Sample.two_pos : 1 ≤ 2 := by
  decide

def Sample.running (started observed : Int) (digit : Char) (hpos : 0 < started)
    (hle : started ≤ observed) (hresponse : isSha256 (Sample.response digit) = true) :
    ProviderRuntimeSample where
  instanceUuid := "pro"
  state := .running
  observedAtNs := observed
  providerStartedAtNs := started
  providerStoppedAtNs := none
  gpuCount := 2
  responseSha256 := Sample.response digit
  uuid_text := by decide
  started_pos := hpos
  started_le := hle
  gpu_pos := Sample.two_pos
  response_valid := hresponse
  running_open := fun _ => rfl
  shutdown_stopped := nofun

/-- An instance is seen running at 100 with start 1, and at 60 with start 50: both
samples are accepted and no reduction succeeds after that. -/
theorem provider_ledger_not_reducible :
    ¬ ∀ sampleId samples, ∃ intervals,
      providerBillingIntervals sampleId (final (step sampleId) [] samples) = .ok intervals := by
  intro h
  obtain ⟨intervals, hok⟩ := h (·.responseSha256)
    [Sample.running 1 100 'a' (by decide) (by decide) (by decide +kernel),
     Sample.running 50 60 'b' (by decide) (by decide) (by decide +kernel)]
  have hbad : (providerBillingIntervals (·.responseSha256) (final (step (·.responseSha256)) []
      [Sample.running 1 100 'a' (by decide) (by decide) (by decide +kernel),
       Sample.running 50 60 'b' (by decide) (by decide) (by decide +kernel)])).isOk = false := by
    decide +kernel
  rw [hok] at hbad
  cases hbad

end Billing

end Operator

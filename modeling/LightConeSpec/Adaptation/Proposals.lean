import Mathlib.Algebra.Order.Ring.Unbundled.Rat
import Mathlib.Algebra.Ring.Rat
import LightConeSpec.Lib.Machine
import LightConeSpec.Adaptation.Optimizer

/-!
# Proposals are transactional

Any number of optimizers, and every proposal that they have made. A command
constructs an optimizer, lets one propose, or asks one to commit any of the
proposals: its own, a stale one, one that was committed before, or one of another
optimizer.

`Kept` is the invariant: an optimizer is what its committed inputs make of it, and
a proposal whose step is the next one is what its optimizer would propose now.
-/

namespace Adaptation

open Python Machine List

variable {S T : Type} [PyFloat S] [Torch S T]

/-! ## Runs -/

/-- All optimizers, and all proposals in the order they were made. -/
structure Optimizers (S T : Type) where
  optimizers : List (GPUOptimizer S T)
  proposals : List (OptimizerProposal T)

inductive OptimizerCommand (S T : Type)
  | construct (parameters : List T) (config : OptimizerConfig S) (initialSafeBoundaryVersion : ℤ)
  | propose (optimizer : ℕ) (gradients : List T)
      (safeBoundaryAge sourceVersion safeBoundaryVersion : Option ℤ)
  | commit (optimizer proposal : ℕ) (numericalReceipt : Option Bool)

/-- How a command ends; `absent` is a command for an optimizer or a proposal that
does not exist. -/
inductive OptimizerOutput
  | absent
  | raised (e : Error)
  | constructed
  | proposed
  | committed

namespace Optimizers

def step (w : Optimizers S T) : OptimizerCommand S T → OptimizerOutput × Optimizers S T
  | .construct parameters config version =>
    match GPUOptimizer.new parameters config version with
    | .error e => (.raised e, w)
    | .ok o => (.constructed, { w with optimizers := w.optimizers ++ [o] })
  | .propose optimizer gradients age source boundary =>
    match w.optimizers[optimizer]? with
    | none => (.absent, w)
    | some o =>
      match o.propose optimizer gradients age source boundary with
      | .error e => (.raised e, w)
      | .ok p => (.proposed, { w with proposals := w.proposals ++ [p] })
  | .commit optimizer proposal receipt =>
    match w.optimizers[optimizer]?, w.proposals[proposal]? with
    | some o, some p =>
      match o.commit optimizer p receipt with
      | .error e => (.raised e, w)
      | .ok o' => (.committed, { w with optimizers := w.optimizers.set optimizer o' })
    | _, _ => (.absent, w)

def start : Optimizers S T := ⟨[], []⟩

/-- What a proposal was made from. -/
structure Input (T : Type) where
  gradients : List T
  sourceVersion : Option ℤ

abbrev Past (S T : Type) :=
  List (Event (Optimizers S T) (OptimizerCommand S T) OptimizerOutput)

def constructionOf (event : Event (Optimizers S T) (OptimizerCommand S T) OptimizerOutput) :
    Option (List T × OptimizerConfig S × ℤ) :=
  match event.input, event.output with
  | .construct parameters config version, .constructed => some (parameters, config, version)
  | _, _ => none

def inputOf (event : Event (Optimizers S T) (OptimizerCommand S T) OptimizerOutput) :
    Option (Input T) :=
  match event.input, event.output with
  | .propose _ gradients _ source _, .proposed => some ⟨gradients, source⟩
  | _, _ => none

def applicationOf (event : Event (Optimizers S T) (OptimizerCommand S T) OptimizerOutput) :
    Option (ℕ × ℕ) :=
  match event.input, event.output with
  | .commit optimizer proposal _, .committed => some (optimizer, proposal)
  | _, _ => none

def constructions (past : Past S T) : List (List T × OptimizerConfig S × ℤ) :=
  past.filterMap constructionOf

/-- What the proposals were made from. -/
def inputs (past : Past S T) : List (Input T) := past.filterMap inputOf

/-- The commits that took place: optimizer and proposal. -/
def applied (past : Past S T) : List (ℕ × ℕ) := past.filterMap applicationOf

/-- What the proposals that an optimizer committed were made from. -/
def committedInputs (past : Past S T) (optimizer : ℕ) : List (Input T) :=
  ((applied past).filter (·.1 = optimizer)).filterMap fun (_, proposal) =>
    (inputs past)[proposal]?

end Optimizers

/-- Proposing from an input and committing. -/
def GPUOptimizer.next (token : ℕ) (o : GPUOptimizer S T) (input : Optimizers.Input T) :
    Except Error (GPUOptimizer S T) := do
  let p ← o.propose token input.gradients none input.sourceVersion o.boundVersion
  pure (o.install p)

/-- The optimizer that a sequence of inputs makes of a new one. -/
def GPUOptimizer.replay (token : ℕ) (o : GPUOptimizer S T) (inputs : List (Optimizers.Input T)) :
    Except Error (GPUOptimizer S T) :=
  inputs.foldlM (fun o input => o.next token input) o

theorem GPUOptimizer.replay_snoc {token : ℕ} {o₀ o o' : GPUOptimizer S T}
    {inputs : List (Optimizers.Input T)} {input : Optimizers.Input T}
    (h : o₀.replay token inputs = .ok o) (hnext : o.next token input = .ok o') :
    o₀.replay token (inputs ++ [input]) = .ok o' := by
  unfold GPUOptimizer.replay at h ⊢
  rw [foldlM_append, h]
  change ([input].foldlM (fun o input => o.next token input) o) = _
  rw [List.foldlM_cons, hnext]
  rfl

namespace Optimizers

/-! ## The invariant -/

/-- A proposal in its history: it was made from an input, and as long as its step is
the next one, it is what the optimizer would propose from it. -/
structure Made (w : Optimizers S T) (input : Input T) (p : OptimizerProposal T)
    (o : GPUOptimizer S T) : Prop where
  owner : w.optimizers[p.ownerToken]? = some o
  step : p.step ≤ o.stepNumber + 1
  counterparts : p.parameters.length = o.master.length ∧
    p.firstMoments.length = o.master.length ∧ p.secondMoments.length = o.master.length
  source : o.config.name ≠ .chronobelief → input.sourceVersion = none
  current : p.step = o.stepNumber + 1 →
    o.propose p.ownerToken input.gradients none input.sourceVersion o.boundVersion = .ok p

def stepOf (w : Optimizers S T) (proposal : ℕ) : Option ℕ := (w.proposals[proposal]?).map (·.step)

/-- What holds of a run that has come to `w`. -/
structure Kept (past : Past S T) (w : Optimizers S T) : Prop where
  constructed : (constructions past).length = w.optimizers.length
  proposed : (inputs past).length = w.proposals.length
  shaped : ∀ o ∈ w.optimizers, o.Shaped
  made : ∀ (k : ℕ) (p : OptimizerProposal T) (input : Input T), w.proposals[k]? = some p →
    (inputs past)[k]? = some input → ∃ o, Made w input p o
  /-- Every commit is of a proposal of its own optimizer that is now behind it. -/
  behind : ∀ a ∈ applied past, ∃ o p, w.optimizers[a.1]? = some o ∧
    w.proposals[a.2]? = some p ∧ p.ownerToken = a.1 ∧ p.step ≤ o.stepNumber
  ordered : (applied past).Pairwise fun a b =>
    a.1 = b.1 → ∀ s t, w.stepOf a.2 = some s → w.stepOf b.2 = some t → s < t
  state : ∀ (i : ℕ) (o : GPUOptimizer S T), w.optimizers[i]? = some o →
    ∃ parameters config version o₀, (constructions past)[i]? = some (parameters, config, version) ∧
      GPUOptimizer.new parameters config version = .ok o₀ ∧
      o₀.replay i (committedInputs past i) = .ok o

variable {past past' : Past S T} {w w' : Optimizers S T} {o o' : GPUOptimizer S T}
  {p : OptimizerProposal T}

theorem getElem?_of_append {α : Type} {xs ys : List α} {k : ℕ} {x : α} (h : xs[k]? = some x) :
    (xs ++ ys)[k]? = some x := by
  rw [getElem?_append_left (List.getElem?_eq_some_iff.mp h).1, h]

/-- An entry of a longer list is an old one or the new one. -/
theorem getElem?_snoc {α : Type} {xs : List α} {x y : α} {k : ℕ} (h : (xs ++ [x])[k]? = some y) :
    xs[k]? = some y ∨ (k = xs.length ∧ y = x) := by
  have hbound := (List.getElem?_eq_some_iff.mp h).1
  rw [length_append, length_singleton] at hbound
  rcases Nat.lt_or_ge k xs.length with hlt | hge
  · rw [getElem?_append_left hlt] at h
    exact .inl h
  · have heq : k = xs.length := by omega
    rw [heq, getElem?_concat_length] at h
    exact .inr ⟨heq, (Option.some.inj h).symm⟩

omit [PyFloat S] [Torch S T] in
/-- The known commits keep their inputs when the run goes on. -/
theorem committedInputs_append {more : List (ℕ × ℕ)} {new : List (Input T)}
    (hknown : ∀ a ∈ applied past, a.2 < (inputs past).length)
    (happlied : applied past' = applied past ++ more) (hinputs : inputs past' = inputs past ++ new)
    (i : ℕ) : committedInputs past' i = committedInputs past i
      ++ (more.filter (·.1 = i)).filterMap fun (_, k) => (inputs past')[k]? := by
  unfold committedInputs
  rw [happlied, filter_append, filterMap_append]
  congr 1
  refine filterMap_congr ?_
  intro a ha
  have hlt := hknown a (mem_filter.mp ha).1
  dsimp only
  rw [hinputs, getElem?_append_left hlt]

namespace Kept

theorem known (h : Kept past w) : ∀ a ∈ applied past, a.2 < (inputs past).length := by
  intro a ha
  rcases h.behind a ha with ⟨o, p, -, hp, -⟩
  rw [h.proposed]
  exact (List.getElem?_eq_some_iff.mp hp).1

/-- Nothing is added to the run. -/
theorem quiet (h : Kept past w) (hc : constructions past' = constructions past ++ [])
    (hi : inputs past' = inputs past ++ []) (ha : applied past' = applied past ++ []) :
    Kept past' w := by
  rw [append_nil] at hc hi ha
  have hcommitted : ∀ i, committedInputs past' i = committedInputs past i := by
    intro i
    unfold committedInputs
    rw [ha, hi]
  refine ⟨?_, ?_, h.shaped, ?_, ?_, ?_, ?_⟩
  · rw [hc]
    exact h.constructed
  · rw [hi]
    exact h.proposed
  · rw [hi]
    exact h.made
  · rw [ha]
    exact h.behind
  · rw [ha]
    exact h.ordered
  · intro i o ho
    rw [hc, hcommitted]
    exact h.state i o ho

/-- A new optimizer. -/
theorem construct (h : Kept past w) {parameters : List T} {config : OptimizerConfig S} {version : ℤ}
    (hnew : GPUOptimizer.new parameters config version = .ok o)
    (hc : constructions past' = constructions past ++ [(parameters, config, version)])
    (hi : inputs past' = inputs past) (ha : applied past' = applied past) :
    Kept past' { w with optimizers := w.optimizers ++ [o] } := by
  have hcommitted : ∀ i, committedInputs past' i = committedInputs past i := by
    intro i
    unfold committedInputs
    rw [ha, hi]
  refine ⟨?_, ?_, ?_, ?_, ?_, ?_, ?_⟩
  · rw [hc, length_append, length_append, h.constructed]
    rfl
  · rw [hi]
    exact h.proposed
  · intro o' ho'
    rcases mem_append.mp ho' with hold | hlast
    · exact h.shaped o' hold
    · rw [mem_singleton.mp hlast]
      exact (GPUOptimizer.shaped_new hnew).1
  · intro k p input hp hinput
    rw [hi] at hinput
    rcases h.made k p input hp hinput with ⟨o', hmade⟩
    exact ⟨o', ⟨getElem?_of_append hmade.owner, hmade.step, hmade.counterparts, hmade.source,
      hmade.current⟩⟩
  · intro a happ
    rw [ha] at happ
    rcases h.behind a happ with ⟨o', p, ho', hrest⟩
    exact ⟨o', p, getElem?_of_append ho', hrest⟩
  · rw [ha]
    exact h.ordered
  · intro i o' ho'
    rw [hcommitted]
    rcases getElem?_snoc ho' with hold | ⟨rfl, rfl⟩
    · rcases h.state i o' hold with ⟨ps, cfg, v, o₀, hconstructed, hrest⟩
      refine ⟨ps, cfg, v, o₀, ?_, hrest⟩
      rw [hc]
      exact getElem?_of_append hconstructed
    · -- the new optimizer has committed nothing
      refine ⟨parameters, config, version, o', ?_, hnew, ?_⟩
      · rw [hc, ← h.constructed, getElem?_concat_length]
      · have hnone : committedInputs past w.optimizers.length = [] := by
          unfold committedInputs
          have hfilter : (applied past).filter (·.1 = w.optimizers.length) = [] := by
            rw [filter_eq_nil_iff]
            intro a happ heq
            rcases h.behind a happ with ⟨o', p, ho', -⟩
            rw [of_decide_eq_true heq] at ho'
            have hbound := (List.getElem?_eq_some_iff.mp ho').1
            omega
          rw [hfilter]
          rfl
        rw [hnone]
        rfl

/-- A new proposal. -/
theorem propose (h : Kept past w) {i : ℕ} {gradients : List T} {age source boundary : Option ℤ}
    (ho : w.optimizers[i]? = some o) (hp : o.propose i gradients age source boundary = .ok p)
    (hc : constructions past' = constructions past)
    (hi : inputs past' = inputs past ++ [⟨gradients, source⟩]) (ha : applied past' = applied past) :
    Kept past' { w with proposals := w.proposals ++ [p] } := by
  have hshape := h.shaped o (mem_of_getElem? ho)
  rcases GPUOptimizer.propose_eq_ok hshape hp with ⟨howner, hstep, hmatches, hsource, hcurrent⟩
  have hstepOf : ∀ a ∈ applied past, stepOf { w with proposals := w.proposals ++ [p] } a.2
      = w.stepOf a.2 := by
    intro a happ
    have hlt := h.known a happ
    rw [h.proposed] at hlt
    unfold stepOf
    rw [getElem?_append_left hlt]
  refine ⟨?_, ?_, h.shaped, ?_, ?_, ?_, ?_⟩
  · rw [hc]
    exact h.constructed
  · rw [hi, length_append, length_append, h.proposed]
    rfl
  · intro k q input hq hinput
    rw [hi] at hinput
    -- an earlier proposal, or the new one
    rcases getElem?_snoc hq with hold | ⟨rfl, rfl⟩
    · have hlt := (List.getElem?_eq_some_iff.mp hold).1
      rw [getElem?_append_left (h.proposed ▸ hlt)] at hinput
      rcases h.made k q input hold hinput with ⟨o', hmade⟩
      exact ⟨o', ⟨hmade.owner, hmade.step, hmade.counterparts, hmade.source, hmade.current⟩⟩
    · rw [← h.proposed, getElem?_concat_length] at hinput
      obtain rfl := Option.some.inj hinput
      refine ⟨o, ?_, ?_, ?_, hsource, ?_⟩
      · rw [howner]
        exact ho
      · rw [hstep]
      · exact ⟨hmatches.parameters, hmatches.first.trans hshape.first,
          hmatches.second.trans hshape.second⟩
      · intro _
        rw [howner]
        exact hcurrent
  · intro a happ
    rw [ha] at happ
    rcases h.behind a happ with ⟨o', q, ho', hq, hrest⟩
    exact ⟨o', q, ho', getElem?_of_append hq, hrest⟩
  · rw [ha]
    refine h.ordered.imp_of_mem ?_
    intro a b hma hmb hlt hab s t hs ht
    rw [hstepOf a hma] at hs
    rw [hstepOf b hmb] at ht
    exact hlt hab s t hs ht
  · intro j o' ho'
    rcases h.state j o' ho' with ⟨ps, cfg, v, o₀, hconstructed, hnew, hreplay⟩
    have hcommitted := committedInputs_append h.known (by rw [ha, append_nil]) hi j
    refine ⟨ps, cfg, v, o₀, ?_, hnew, ?_⟩
    · rw [hc]
      exact hconstructed
    · rw [hcommitted]
      simpa using hreplay

theorem exists_input (h : Kept past w) {k : ℕ} (hp : w.proposals[k]? = some p) :
    ∃ input, (inputs past)[k]? = some input := by
  have hlt := (List.getElem?_eq_some_iff.mp hp).1
  rw [← h.proposed] at hlt
  exact ⟨_, getElem?_eq_getElem hlt⟩

section Commit

variable (h : Kept past w) {i k : ℕ} (ho : w.optimizers[i]? = some o) {input : Input T}

include h ho

theorem made_own (hp : w.proposals[k]? = some p) (howner : p.ownerToken = i)
    (hinput : (inputs past)[k]? = some input) : Made w input p o := by
  rcases h.made k p input hp hinput with ⟨o', hmade⟩
  have hlookup := hmade.owner
  rw [howner, ho] at hlookup
  obtain rfl := Option.some.inj hlookup
  exact hmade

variable (hstep : p.step = o.stepNumber + 1)

include hstep

/-- A commit leaves the other proposals of its optimizer behind. -/
theorem made_install (hmatches : o.Matches p) {q : OptimizerProposal T}
    (hq : w.proposals[k]? = some q) (hinput : (inputs past)[k]? = some input) :
    ∃ o', Made { w with optimizers := w.optimizers.set i (o.install p) } input q o' := by
  by_cases howned : q.ownerToken = i
  · have hmade := h.made_own ho hq howned hinput
    have hle := hmade.step
    refine ⟨o.install p, ?_, ?_, ?_, hmade.source, ?_⟩
    · rw [howned]
      exact getElem?_set_self (List.getElem?_eq_some_iff.mp ho).1
    · change q.step ≤ p.step + 1
      omega
    · have hsame : (o.install p).master.length = o.master.length := hmatches.parameters
      rw [hsame]
      exact hmade.counterparts
    · -- it was made for a step that has been taken
      intro hnext
      change q.step = p.step + 1 at hnext
      omega
  · rcases h.made k q input hq hinput with ⟨o', hmade⟩
    refine ⟨o', ?_, hmade.step, hmade.counterparts, hmade.source, hmade.current⟩
    exact (getElem?_set_ne (Ne.symm howned)).trans hmade.owner

variable (hp : w.proposals[k]? = some p)

include hp

/-- A committed proposal comes after the earlier ones of its optimizer. -/
theorem ordered_snoc : (applied past ++ [(i, k)]).Pairwise fun a b =>
    a.1 = b.1 → ∀ s t, w.stepOf a.2 = some s → w.stepOf b.2 = some t → s < t := by
  refine pairwise_append.mpr ⟨h.ordered, pairwise_singleton _ _, ?_⟩
  intro a happ b hb hab s t hs ht
  rw [mem_singleton.mp hb] at hab ht
  rcases h.behind a happ with ⟨o', q, ho', hq, -, hle⟩
  dsimp only at hab
  rw [hab, ho] at ho'
  obtain rfl := Option.some.inj ho'
  unfold stepOf at hs ht
  dsimp only at hs ht
  rw [hq] at hs
  rw [hp] at ht
  obtain rfl := Option.some.inj hs
  obtain rfl := Option.some.inj ht
  change q.step < p.step
  omega

/-- Committing the proposal is what its input makes of the optimizer. -/
theorem next_eq_ok (howner : p.ownerToken = i) (hinput : (inputs past)[k]? = some input) :
    o.next i input = .ok (o.install p) := by
  have hcurrent := (h.made_own ho hp howner hinput).current hstep
  rw [howner] at hcurrent
  unfold GPUOptimizer.next
  rw [hcurrent]
  rfl

end Commit

/-- A commit of an optimizer's next step. -/
theorem commit (h : Kept past w) {i k : ℕ} {receipt : Option Bool}
    (ho : w.optimizers[i]? = some o) (hp : w.proposals[k]? = some p)
    (hcommit : o.commit i p receipt = .ok o') (hc : constructions past' = constructions past)
    (hi : inputs past' = inputs past) (ha : applied past' = applied past ++ [(i, k)]) :
    Kept past' { w with optimizers := w.optimizers.set i o' } := by
  rcases GPUOptimizer.commit_eq_ok hcommit with ⟨howner, hstep, rfl⟩
  rcases h.exists_input hp with ⟨input, hinput⟩
  have hmade := h.made_own ho hp howner hinput
  have hshape := h.shaped o (mem_of_getElem? ho)
  have hmatches : o.Matches p :=
    ⟨hmade.counterparts.1, hmade.counterparts.2.1.trans hshape.first.symm,
      hmade.counterparts.2.2.trans hshape.second.symm⟩
  have hset : (w.optimizers.set i (o.install p))[i]? = some (o.install p) :=
    getElem?_set_self (List.getElem?_eq_some_iff.mp ho).1
  have hother : ∀ {j}, j ≠ i → (w.optimizers.set i (o.install p))[j]? = w.optimizers[j]? :=
    fun hj => getElem?_set_ne (Ne.symm hj)
  refine ⟨?_, ?_, ?_, ?_, ?_, ?_, ?_⟩
  · rw [hc, length_set]
    exact h.constructed
  · rw [hi]
    exact h.proposed
  · intro o' ho'
    rcases mem_or_eq_of_mem_set ho' with hold | rfl
    · exact h.shaped o' hold
    · exact hshape.install hmatches
  · intro k' q input' hq hinput'
    rw [hi] at hinput'
    exact h.made_install ho hstep hmatches hq hinput'
  · intro a happ
    rw [ha] at happ
    rcases mem_append.mp happ with hold | hlast
    · rcases h.behind a hold with ⟨o', q, ho', hq, howned, hle⟩
      by_cases hai : a.1 = i
      · rw [hai, ho] at ho'
        obtain rfl := Option.some.inj ho'
        refine ⟨o.install p, q, ?_, hq, howned, ?_⟩
        · rw [hai]
          exact hset
        · change q.step ≤ p.step
          omega
      · exact ⟨o', q, (hother hai).trans ho', hq, howned, hle⟩
    · rw [mem_singleton.mp hlast]
      exact ⟨o.install p, p, hset, hp, howner, le_refl _⟩
  · rw [ha]
    exact h.ordered_snoc ho hstep hp
  · intro j o' ho'
    have hcommitted := committedInputs_append h.known ha (hi.trans (append_nil _).symm) j
    rw [hcommitted, hc, hi]
    by_cases hj : j = i
    · subst hj
      dsimp only at ho'
      rw [hset] at ho'
      obtain rfl := Option.some.inj ho'
      rcases h.state j o ho with ⟨ps, cfg, v, o₀, hconstructed, hnew, hreplay⟩
      refine ⟨ps, cfg, v, o₀, hconstructed, hnew, ?_⟩
      have hlast : (([(j, k)] : List (ℕ × ℕ)).filter (·.1 = j)).filterMap
          (fun (_, k) => (inputs past)[k]?) = [input] := by
        simp [hinput]
      rw [hlast]
      exact GPUOptimizer.replay_snoc hreplay (h.next_eq_ok ho hstep hp howner hinput)
    · have hnone : (([(i, k)] : List (ℕ × ℕ)).filter (·.1 = j)).filterMap
          (fun (_, k) => (inputs past)[k]?) = [] := by
        simp [Ne.symm hj]
      rw [hnone, append_nil]
      exact h.state j o' ((hother hj).symm.trans ho')

end Kept

omit [PyFloat S] [Torch S T] in
theorem filterMap_snoc {α β : Type} (f : α → Option β) (xs : List α) (x : α) :
    (xs ++ [x]).filterMap f = xs.filterMap f ++ (f x).toList := by
  rw [filterMap_append]
  cases h : f x <;> simp [h]

/-- Step lemma, with one case for each command. -/
theorem Kept.step (h : Kept past w) (command : OptimizerCommand S T) :
    Kept (past ++ [event Optimizers.step w command]) (Optimizers.step w command).2 := by
  have hc : constructions (past ++ [event Optimizers.step w command]) = constructions past
      ++ (constructionOf (event Optimizers.step w command)).toList := filterMap_snoc _ _ _
  have hi : inputs (past ++ [event Optimizers.step w command]) = inputs past
      ++ (inputOf (event Optimizers.step w command)).toList := filterMap_snoc _ _ _
  have ha : applied (past ++ [event Optimizers.step w command]) = applied past
      ++ (applicationOf (event Optimizers.step w command)).toList := filterMap_snoc _ _ _
  generalize past ++ [event Optimizers.step w command] = past' at hc hi ha ⊢
  unfold event at hc hi ha
  generalize hres : Optimizers.step w command = res at hc hi ha ⊢
  cases command with
  | construct parameters config version =>
    unfold Optimizers.step at hres
    dsimp only at hres
    split at hres
    · subst hres
      exact h.quiet hc hi ha
    · rename_i o hnew
      subst hres
      exact h.construct hnew hc (by simpa [inputOf] using hi) (by simpa [applicationOf] using ha)
  | propose i gradients age source boundary =>
    unfold Optimizers.step at hres
    dsimp only at hres
    split at hres
    · subst hres
      exact h.quiet hc hi ha
    · rename_i o ho
      split at hres
      · subst hres
        exact h.quiet hc hi ha
      · rename_i p hp
        subst hres
        exact h.propose ho hp (by simpa [constructionOf] using hc) hi
          (by simpa [applicationOf] using ha)
  | commit i k receipt =>
    unfold Optimizers.step at hres
    dsimp only at hres
    split at hres
    · rename_i o p ho hp
      split at hres
      · subst hres
        exact h.quiet hc hi ha
      · rename_i o' hcommit
        subst hres
        exact h.commit ho hp hcommit (by simpa [constructionOf] using hc)
          (by simpa [inputOf] using hi) ha
    · subst hres
      exact h.quiet hc hi ha

theorem kept_start : Kept ([] : Past S T) start := by
  refine ⟨rfl, rfl, ?_, ?_, ?_, List.Pairwise.nil, ?_⟩
  · intro o ho
    exact absurd ho not_mem_nil
  · intro k p input hp
    cases hp
  · intro a ha
    exact absurd ha not_mem_nil
  · intro i o ho
    cases ho

theorem kept_run (commands : List (OptimizerCommand S T)) :
    Kept (trace Optimizers.step start commands) (final Optimizers.step start commands) := by
  have hstep : ∀ past (w : Optimizers S T) command, Kept past w → True →
      Kept (past ++ [event Optimizers.step w command]) (Optimizers.step w command).2 :=
    fun _ _ command h _ => h.step command
  exact trace_induction hstep kept_start fun _ _ => trivial

theorem kept_pre {commands : List (OptimizerCommand S T)}
    {e : Event (Optimizers S T) (OptimizerCommand S T) OptimizerOutput}
    (he : e ∈ trace Optimizers.step start commands) : ∃ past, Kept past e.pre := by
  rcases List.append_of_mem he with ⟨before, rest, hsplit⟩
  rcases trace_split hsplit with ⟨first, -, hpre, -⟩
  exact ⟨_, hpre ▸ kept_run first⟩

/-! ## Transactions -/

/-- A commit has installed the tensors of a proposal. -/
structure Installed (o : GPUOptimizer S T) (p : OptimizerProposal T) (o' : GPUOptimizer S T) :
    Prop where
  config : o'.config = o.config
  counterparts : o.Matches p
  master : o'.master = p.parameters
  first : o'.firstMoments
    = (p.firstMoments.zip o.firstMoments).map fun (held, own) => held.read own
  second : o'.secondMoments
    = (p.secondMoments.zip o.secondMoments).map fun (held, own) => held.read own
  step : o'.stepNumber = o.stepNumber + 1
  boundary : o'.safeBoundaryVersion =
    if o.config.name = .chronobelief then o.safeBoundaryVersion + 1 else o.safeBoundaryVersion

/-- Proposals are transactional in a run that has come to `w`. -/
structure Transactional (run : Past S T) (w : Optimizers S T) : Prop where
  /-- Proposing changes no optimizer; what it adds is made for the next step. -/
  proposing : ∀ e ∈ run, ∀ i gradients age source boundary,
    e.input = .propose i gradients age source boundary →
      e.post.optimizers = e.pre.optimizers ∧
        ((e.output = .proposed ∧ ∃ o p, e.pre.optimizers[i]? = some o ∧ p.ownerToken = i ∧
            p.step = o.stepNumber + 1 ∧ e.post.proposals = e.pre.proposals ++ [p]) ∨
          (e.output ≠ .proposed ∧ e.post = e.pre))
  /-- A commit installs its proposal, or changes nothing. -/
  committing : ∀ e ∈ run, ∀ i k receipt, e.input = .commit i k receipt →
    (e.output = .committed ∧ ∃ o p o', e.pre.optimizers[i]? = some o ∧
        e.pre.proposals[k]? = some p ∧ p.ownerToken = i ∧ Installed o p o' ∧
        e.post = { e.pre with optimizers := e.pre.optimizers.set i o' }) ∨
      (e.output ≠ .committed ∧ e.post = e.pre)
  /-- No proposal is applied twice. -/
  once : (applied run).Pairwise fun a b => a.2 ≠ b.2
  /-- Of the proposals made from one step of an optimizer at most one is applied. -/
  onePerStep : (applied run).Pairwise fun a b => a.1 = b.1 → w.stepOf a.2 ≠ w.stepOf b.2
  /-- An optimizer is what its committed inputs make of it. Only ChronoBelief's inputs
  have a source version. -/
  state : ∀ (i : ℕ) (o : GPUOptimizer S T), w.optimizers[i]? = some o →
    (∃ parameters config version o₀, (constructions run)[i]? = some (parameters, config, version) ∧
      GPUOptimizer.new parameters config version = .ok o₀ ∧
      o₀.replay i (committedInputs run i) = .ok o) ∧
    (o.config.name ≠ .chronobelief →
      ∀ input ∈ committedInputs run i, input.sourceVersion = none)

theorem Kept.matches (h : Kept past w) {i k : ℕ} (ho : w.optimizers[i]? = some o)
    (hp : w.proposals[k]? = some p) (howner : p.ownerToken = i) : o.Matches p := by
  have hlt := (List.getElem?_eq_some_iff.mp hp).1
  rw [← h.proposed] at hlt
  rcases h.made k p _ hp (getElem?_eq_getElem hlt) with ⟨o', hmade⟩
  have hlookup := hmade.owner
  rw [howner, ho] at hlookup
  obtain rfl := Option.some.inj hlookup
  have hshape := h.shaped o (mem_of_getElem? ho)
  exact ⟨hmade.counterparts.1, hmade.counterparts.2.1.trans hshape.first.symm,
    hmade.counterparts.2.2.trans hshape.second.symm⟩

theorem Kept.once (h : Kept past w) : (applied past).Pairwise fun a b => a.2 ≠ b.2 := by
  refine h.ordered.imp_of_mem ?_
  intro a b hma hmb hlt heq
  rcases h.behind a hma with ⟨o, p, -, hp, howner, -⟩
  rcases h.behind b hmb with ⟨o', q, -, hq, howner', -⟩
  have hsame : p = q := by
    rw [heq] at hp
    exact Option.some.inj (hp.symm.trans hq)
  subst hsame
  have hstep : w.stepOf b.2 = some p.step := by
    unfold stepOf
    rw [hq]
    rfl
  exact lt_irrefl _ (hlt (howner.symm.trans howner') p.step p.step (heq ▸ hstep) hstep)

theorem Kept.onePerStep (h : Kept past w) :
    (applied past).Pairwise fun a b => a.1 = b.1 → w.stepOf a.2 ≠ w.stepOf b.2 := by
  refine h.ordered.imp_of_mem ?_
  intro a b hma hmb hlt hab heq
  rcases h.behind b hmb with ⟨o, p, -, hp, -⟩
  have hstep : w.stepOf b.2 = some p.step := by
    unfold stepOf
    rw [hp]
    rfl
  exact lt_irrefl _ (hlt hab p.step p.step (heq.trans hstep) hstep)

theorem Kept.sources (h : Kept past w) {i : ℕ} (ho : w.optimizers[i]? = some o)
    (hname : o.config.name ≠ .chronobelief) :
    ∀ input ∈ committedInputs past i, input.sourceVersion = none := by
  intro input hinput
  rcases mem_filterMap.mp hinput with ⟨⟨j, k⟩, hmem, hk⟩
  rcases mem_filter.mp hmem with ⟨happ, hj⟩
  obtain rfl : j = i := of_decide_eq_true hj
  rcases h.behind (j, k) happ with ⟨o', p, -, hp, howner, -⟩
  rcases h.made k p input hp hk with ⟨o'', hmade⟩
  have hlookup := hmade.owner
  rw [howner] at hlookup
  rw [ho] at hlookup
  obtain rfl := Option.some.inj hlookup
  exact hmade.source hname

/-- Proposing leaves every optimizer as it is, committing installs a proposal of the
next step or leaves everything as it is, and an optimizer is what the gradients and
source versions of its committed proposals make of it. -/
theorem optimizer_transactional (commands : List (OptimizerCommand S T)) :
    Transactional (trace Optimizers.step (start : Optimizers S T) commands)
      (final Optimizers.step start commands) := by
  have h := kept_run commands
  refine ⟨?_, ?_, h.once, h.onePerStep, ?_⟩
  · intro e he i gradients age source boundary hinput
    have hstep := eq_event_of_mem_trace he
    rcases kept_pre he with ⟨past, hpast⟩
    rw [hstep, hinput]
    unfold event Optimizers.step
    dsimp only
    split
    · exact ⟨rfl, .inr ⟨nofun, rfl⟩⟩
    · rename_i o ho
      split
      · exact ⟨rfl, .inr ⟨nofun, rfl⟩⟩
      · rename_i p hp
        have hshape := hpast.shaped o (List.mem_of_getElem? ho)
        rcases GPUOptimizer.propose_eq_ok hshape hp with ⟨howner, hnext, -⟩
        exact ⟨rfl, .inl ⟨rfl, o, p, ho, howner, hnext, rfl⟩⟩
  · intro e he i k receipt hinput
    have hstep := eq_event_of_mem_trace he
    rcases kept_pre he with ⟨past, hpast⟩
    rw [hstep, hinput]
    unfold event Optimizers.step
    dsimp only
    split
    · rename_i o p ho hp
      split
      · exact .inr ⟨nofun, rfl⟩
      · rename_i o' hcommit
        rcases GPUOptimizer.commit_eq_ok hcommit with ⟨howner, hnext, rfl⟩
        exact .inl ⟨rfl, o, p, o.install p, ho, hp, howner,
          ⟨rfl, hpast.matches ho hp howner, rfl, rfl, rfl, hnext, rfl⟩, rfl⟩
    · exact .inr ⟨nofun, rfl⟩
  · intro i o ho
    exact ⟨h.state i o ho, h.sources ho⟩

/-! ## ChronoBelief and the age of a gradient -/

/-- The floor of a square root. -/
def natSqrt (n : ℕ) : ℕ := (List.range (n + 1)).foldl (fun r i => if i * i ≤ n then i else r) 0

/-- Rationals, with the root of squares. -/
instance : PyFloat ℚ where
  ofRat := id
  sqrt x := mkRat (natSqrt x.num.toNat) (natSqrt x.den)
  cos _ := 1
  pi := 3
  maximum := max
  atLeast x y := y ≤ x
  pow x n := .ok (x ^ n)
  trueDiv x y := if y = 0 then .error (runtimeError "division by zero") else .ok (x / y)

/-- A tensor of one rational, or of none. -/
structure Cell where
  value : Option ℚ
deriving DecidableEq

def Cell.map (f : ℚ → ℚ) (c : Cell) : Cell := ⟨c.value.map f⟩

def Cell.map₂ (f : ℚ → ℚ → ℚ) (c d : Cell) : Cell :=
  ⟨c.value.bind fun x => d.value.map fun y => f x y⟩

instance : Torch ℚ Cell where
  add := Cell.map₂ (· + ·)
  sub := Cell.map₂ (· - ·)
  mul := Cell.map₂ (· * ·)
  div := Cell.map₂ (· / ·)
  smul s := Cell.map (s * ·)
  shape c := if c.value.isSome then [1] else [0]
  device _ := .cpu
  isfinite _ := true
  float32 := id
  bfloat16 := id
  zerosLike := Cell.map fun _ => 0
  empty _ := ⟨none⟩
  addScalar c s := c.map (· + s)
  divScalar c s := c.map (· / s)
  scalarDiv s c := c.map (s / ·)
  square := Cell.map fun x => x * x
  sqrt := Cell.map PyFloat.sqrt
  sign := Cell.map fun x => if x = 0 then 0 else if 0 < x then 1 else -1
  sum := id
  norm := Cell.map fun x => max x (-x)
  stack cells := ⟨some ((cells.filterMap (·.value)).sum)⟩
  clampMax c s := c.map (min s)
  clampMin c s := c.map (max s)
  transpose := id
  matmul := Cell.map₂ (· * ·)
  addmm input a b beta alpha := Cell.map₂ (· + ·) (input.map (beta * ·))
    ((Cell.map₂ (· * ·) a b).map (alpha * ·))

/-- ChronoBelief with all decay rates a quarter. -/
def quarterConfig : OptimizerConfig ℚ where
  name := .chronobelief
  learningRate := 1
  weightDecay := 0
  beta1 := 1 / 4
  beta2 := 1 / 4
  epsilon := 1 / 4
  gradClip := none
  momentum := none
  muonNsSteps := none
  muonAuxiliaryLearningRate := none
  muonAuxiliaryWeightDecay := none
  schedule := .constant
  scheduleTotalPublishedUpdates := none
  horizon := nofun

/-- One committed gradient, made at a source version. -/
def commandsFrom (source : ℤ) : List (OptimizerCommand ℚ Cell) :=
  [.construct [⟨some 0⟩] quarterConfig 1, .propose 0 [⟨some 1⟩] none (some source) (some 1),
    .commit 0 0 none]

/-- The committed gradients alone do not say what the optimizer is: the same
gradient moves the master by two, or, when it is one version old, by one. -/
theorem state_depends_on_source :
    ¬ ∀ commands commands' : List (OptimizerCommand ℚ Cell),
      constructions (trace Optimizers.step start commands)
          = constructions (trace Optimizers.step start commands') →
      (committedInputs (trace Optimizers.step start commands) 0).map (·.gradients)
          = (committedInputs (trace Optimizers.step start commands') 0).map (·.gradients) →
      (final Optimizers.step start commands).optimizers.map (·.master)
          = (final Optimizers.step start commands').optimizers.map (·.master) := by
  intro h
  have hsame := h (commandsFrom 1) (commandsFrom 0) rfl (by decide +kernel)
  revert hsame
  decide +kernel

end Optimizers

end Adaptation

import Mathlib.Data.Prod.Lex
import Mathlib.Data.Rat.Defs
import Mathlib.Tactic.NormNum
import LightConeSpec.Lib.Dict
import LightConeSpec.Lib.Python
import LightConeSpec.Lib.StepUp

/-!
# Multiplicity adjustment

The Benjamini-Hochberg adjustment of a family of named p-values, over exact
rationals. The loop runs over the ranks from the largest p-value down and keeps a
running minimum; a hypothesis is rejected when its minimum is at most the false
discovery rate.

`benjaminiHochberg_isStepUp` connects it to the step-up definition, which asks for
the largest rank whose p-value is below a line.
-/

namespace Statistics

open Python StepUp List Dict

/-- One hypothesis after an adjustment. -/
structure MultiplicityDecision where
  name : String
  rawPValue : ℚ
  adjustedPValue : ℚ
  rejected : Bool
  procedure : String
  deriving DecidableEq

/-- The loop of `_validate_p_values` over the items of the mapping. -/
def checkItems : List (String × ℚ) → Dict String ℚ → Except Error (Dict String ℚ)
  | [], checked => .ok checked
  | (name, value) :: items, checked => do
      require (name ≠ "") (valueError "hypothesis names must be non-empty")
      require (0 ≤ value ∧ value ≤ 1) (valueError "p-values must be finite probabilities")
      checkItems items (checked.set name value)

def validatePValues (pValues : Dict String ℚ) : Except Error (Dict String ℚ) := do
  require (pValues.entries ≠ []) (valueError "a multiplicity family cannot be empty")
  checkItems pValues.entries Dict.empty

/-- `checked[name]` of a name that is a key. -/
def valueOf (checked : Dict String ℚ) (name : String) : ℚ := (checked.get? name).getD 0

/-- `sorted(checked, key=lambda name: (checked[name], name))`. -/
def ordered (checked : Dict String ℚ) : List String :=
  sortedBy (fun name => toLex (valueOf checked name, name)) (checked.entries.map Prod.fst)

/-- The loop over the ranks `rank, …, 1`. -/
def adjustFrom (checked : Dict String ℚ) (ordered : List String) :
    ℕ → ℚ → Dict String ℚ → Dict String ℚ
  | 0, _, adjusted => adjusted
  | rank + 1, runningMinimum, adjusted =>
    let name := ordered.getD rank ""
    let candidate := min 1 (valueOf checked name * ordered.length / (rank + 1 : ℕ))
    let runningMinimum := min runningMinimum candidate
    adjustFrom checked ordered rank runningMinimum (adjusted.set name runningMinimum)

def benjaminiHochberg (pValues : Dict String ℚ) (falseDiscoveryRate : ℚ) :
    Except Error (List MultiplicityDecision) := do
  let checked ← validatePValues pValues
  require (0 < falseDiscoveryRate ∧ falseDiscoveryRate < 1)
    (valueError "false discovery rate must be in (0, 1)")
  let ordered := ordered checked
  let adjusted := adjustFrom checked ordered ordered.length 1 Dict.empty
  return (sortedBy id (checked.entries.map Prod.fst)).map fun name =>
    { name
      rawPValue := valueOf checked name
      adjustedPValue := valueOf adjusted name
      rejected := valueOf adjusted name ≤ falseDiscoveryRate
      procedure := "benjamini-hochberg" }

/-! ## The families and their decisions -/

/-- A non-empty family of named probabilities. -/
structure Family (pValues : Dict String ℚ) : Prop where
  nonempty : pValues.entries ≠ []
  named : ∀ entry ∈ pValues.entries, entry.1 ≠ ""
  probabilities : ∀ entry ∈ pValues.entries, 0 ≤ entry.2 ∧ entry.2 ≤ 1

/-- What the step-up definition at level `q` says of the decisions on a family. -/
structure IsStepUp (pValues : Dict String ℚ) (q : ℚ) (decisions : List MultiplicityDecision) :
    Prop where
  /-- Every hypothesis has one decision, with its p-value. -/
  nodup : (decisions.map MultiplicityDecision.name).Nodup
  covers : ∀ name value, (∃ d ∈ decisions, d.name = name ∧ d.rawPValue = value) ↔
    pValues.get? name = some value
  /-- The rejected p-values are those up to the largest rank below the line. -/
  rejects : ∀ d ∈ decisions, d.rejected = true ↔
    Rejected (orderStatistic pValues.values) pValues.size q d.rawPValue
  mono : ∀ d ∈ decisions, ∀ d' ∈ decisions, d.rawPValue ≤ d'.rawPValue →
    d.adjustedPValue ≤ d'.adjustedPValue
  ties : ∀ d ∈ decisions, ∀ d' ∈ decisions, d.rawPValue = d'.rawPValue →
    d.adjustedPValue = d'.adjustedPValue ∧ d.rejected = d'.rejected
  bounds : ∀ d ∈ decisions, d.rawPValue ≤ d.adjustedPValue ∧ d.adjustedPValue ≤ 1

/-! ## Validation -/

/-- Distinct valid items are added in their order. -/
theorem checkItems_ok {items : List (String × ℚ)} {checked : Dict String ℚ}
    (hnd : ((checked.entries ++ items).map Prod.fst).Nodup) (hnamed : ∀ item ∈ items, item.1 ≠ "")
    (hprob : ∀ item ∈ items, 0 ≤ item.2 ∧ item.2 ≤ 1) :
    checkItems items checked = .ok ⟨checked.entries ++ items, hnd⟩ := by
  induction items generalizing checked with
  | nil => simp [checkItems]
  | cons item items ih =>
    have hfresh : item.1 ∉ checked.entries.map Prod.fst := by
      intro hmem
      rw [map_append] at hnd
      exact disjoint_of_nodup_append hnd hmem (by simp)
    have hset : (checked.set item.1 item.2).entries = checked.entries ++ [item] := by
      rw [Dict.set, dif_neg hfresh]
    have happend : checked.entries ++ item :: items =
        (checked.set item.1 item.2).entries ++ items := by
      rw [hset, append_assoc, singleton_append]
    have hrest := ih (happend ▸ hnd) (fun i hi => hnamed i (mem_cons_of_mem _ hi))
      (fun i hi => hprob i (mem_cons_of_mem _ hi))
    have hname : item.1 ≠ "" := hnamed item mem_cons_self
    have hvalue : 0 ≤ item.2 ∧ item.2 ≤ 1 := hprob item mem_cons_self
    simp only [checkItems, require, hname, hvalue, ne_eq, not_false_eq_true, and_self, if_true]
    refine hrest.trans ?_
    simp only [happend]

/-- A family passes its check unchanged. -/
theorem validatePValues_ok {pValues : Dict String ℚ} (h : Family pValues) :
    validatePValues pValues = .ok pValues := by
  have hnd : (((Dict.empty : Dict String ℚ).entries ++ pValues.entries).map Prod.fst).Nodup :=
    pValues.nodup
  have hitems := checkItems_ok hnd h.named h.probabilities
  simp only [validatePValues, require, h.nonempty, ne_eq, not_false_eq_true, if_true]
  exact hitems

/-! ## The order of the hypotheses -/

variable {pValues : Dict String ℚ}

theorem valueOf_of_mem {entry : String × ℚ} (h : entry ∈ pValues.entries) :
    valueOf pValues entry.1 = entry.2 := by
  rw [valueOf, mem_entries_iff.mp h, Option.getD_some]

theorem map_valueOf_keys (pValues : Dict String ℚ) :
    (pValues.entries.map Prod.fst).map (valueOf pValues) = pValues.values := by
  rw [map_map, Dict.values]
  exact map_congr_left fun entry hentry => valueOf_of_mem hentry

theorem ordered_perm (pValues : Dict String ℚ) :
    (ordered pValues).Perm (pValues.entries.map Prod.fst) :=
  sortedBy_perm _ _

theorem ordered_nodup (pValues : Dict String ℚ) : (ordered pValues).Nodup :=
  (ordered_perm pValues).nodup_iff.mpr pValues.nodup

theorem length_ordered (pValues : Dict String ℚ) : (ordered pValues).length = pValues.size := by
  rw [(ordered_perm pValues).length_eq, length_map, Dict.size]

/-- The p-value of the hypothesis at a rank is the order statistic of that rank. -/
theorem valueOf_ordered {k : ℕ} (hk : 1 ≤ k) (hkm : k ≤ pValues.size) :
    valueOf pValues ((ordered pValues).getD (k - 1) "") = orderStatistic pValues.values k := by
  have hperm : ((ordered pValues).map (valueOf pValues)).Perm pValues.values := by
    rw [← map_valueOf_keys]
    exact (ordered_perm pValues).map _
  have hsorted : ((ordered pValues).map (valueOf pValues)).Pairwise (· ≤ ·) := by
    rw [pairwise_map]
    refine (sortedBy_pairwise _ _).imp ?_
    intro a b hab
    exact Prod.Lex.monotone_fst _ _ hab
  have hlen := length_ordered pValues
  have hlt : k - 1 < (ordered pValues).length := by omega
  have hlt' : k - 1 < ((ordered pValues).map (valueOf pValues)).length := by simpa using hlt
  rw [orderStatistic_of_sorted hperm hsorted, getD_eq_getElem _ _ hlt,
    getD_eq_getElem _ _ hlt', getElem_map]

variable {name : String}

/-- Every hypothesis has a rank. -/
theorem exists_rank (h : name ∈ pValues.entries.map Prod.fst) :
    ∃ k, 1 ≤ k ∧ k ≤ pValues.size ∧ (ordered pValues).getD (k - 1) "" = name := by
  have hmem : name ∈ ordered pValues := (ordered_perm pValues).mem_iff.mpr h
  rcases getElem_of_mem hmem with ⟨i, hi, hget⟩
  have hlen := length_ordered pValues
  refine ⟨i + 1, by omega, by omega, ?_⟩
  rw [Nat.add_sub_cancel, getD_eq_getElem _ _ hi, hget]

/-! ## The loop -/

/-- Each round of the loop records the adjusted value of its rank, and the later
rounds keep it because the names are distinct. -/
theorem adjustFrom_adjusted {rank : ℕ} {runningMinimum : ℚ} {adjusted : Dict String ℚ}
    (hrank : rank ≤ pValues.size)
    (hrunning : Adjusted (orderStatistic pValues.values) pValues.size (rank + 1) runningMinimum)
    (hadjusted : ∀ k, rank + 1 ≤ k → k ≤ pValues.size →
      Adjusted (orderStatistic pValues.values) pValues.size k
        (valueOf adjusted ((ordered pValues).getD (k - 1) "")))
    {k : ℕ} (hk : 1 ≤ k) (hkm : k ≤ pValues.size) :
    Adjusted (orderStatistic pValues.values) pValues.size k
      (valueOf (adjustFrom pValues (ordered pValues) rank runningMinimum adjusted)
        ((ordered pValues).getD (k - 1) "")) := by
  induction rank generalizing runningMinimum adjusted with
  | zero => exact hadjusted k hk hkm
  | succ rank ih =>
    have hlen := length_ordered pValues
    have hvalue : valueOf pValues ((ordered pValues).getD rank "") =
        orderStatistic pValues.values (rank + 1) :=
      valueOf_ordered (k := rank + 1) (by omega) hrank
    have hnext := hrunning.cons hrank
    rw [adjustFrom]
    simp only [hvalue, hlen]
    refine ih (by omega) hnext ?_
    intro l hl hlm
    rcases Nat.lt_or_ge (rank + 1) l with hlater | hsame
    · -- the name of a later rank is another one
      have hi : l - 1 < (ordered pValues).length := by omega
      have hj : rank < (ordered pValues).length := by omega
      have hother : (ordered pValues).getD (l - 1) "" ≠ (ordered pValues).getD rank "" := by
        rw [getD_eq_getElem _ _ hi, getD_eq_getElem _ _ hj, ne_eq,
          (ordered_nodup pValues).getElem_inj_iff]
        omega
      rw [valueOf, get?_set, if_neg hother, ← valueOf]
      exact hadjusted l (by omega) hlm
    · have hrank' : l = rank + 1 := by omega
      subst hrank'
      rw [valueOf, Nat.add_sub_cancel, get?_set, if_pos rfl, Option.getD_some]
      exact hnext

/-! ## The decisions -/

/-- The decision on one hypothesis of a family. -/
def decision (checked : Dict String ℚ) (q : ℚ) (name : String) : MultiplicityDecision :=
  let adjusted := adjustFrom checked (ordered checked) (ordered checked).length 1 Dict.empty
  { name
    rawPValue := valueOf checked name
    adjustedPValue := valueOf adjusted name
    rejected := valueOf adjusted name ≤ q
    procedure := "benjamini-hochberg" }

/-- The adjustment of a family at a valid rate returns the decision on each name. -/
theorem benjaminiHochberg_eq (h : Family pValues) {q : ℚ} (hq : 0 < q ∧ q < 1) :
    benjaminiHochberg pValues q =
      .ok ((sortedBy id (pValues.entries.map Prod.fst)).map (decision pValues q)) := by
  simp only [benjaminiHochberg, validatePValues_ok h, require, hq, and_self, if_true]
  rfl

/-- A decision is that of some rank. -/
theorem decision_rank {q : ℚ} (h : name ∈ pValues.entries.map Prod.fst) :
    ∃ k, 1 ≤ k ∧ k ≤ pValues.size ∧
      (decision pValues q name).rawPValue = orderStatistic pValues.values k ∧
      Adjusted (orderStatistic pValues.values) pValues.size k
        (decision pValues q name).adjustedPValue := by
  rcases exists_rank h with ⟨k, hk, hkm, rfl⟩
  refine ⟨k, hk, hkm, valueOf_ordered hk hkm, ?_⟩
  have hlen := length_ordered pValues
  refine adjustFrom_adjusted hlen.le ?_ ?_ hk hkm
  · rw [hlen]
    exact adjusted_above
  · intro l hl hlm
    omega

theorem orderStatistic_probability (h : Family pValues) (k : ℕ) (hk : 1 ≤ k)
    (hkm : k ≤ pValues.size) :
    0 ≤ orderStatistic pValues.values k ∧ orderStatistic pValues.values k ≤ 1 := by
  have hmem : orderStatistic pValues.values k ∈ pValues.values :=
    orderStatistic_mem hk (by rw [length_values]; exact hkm)
  rcases mem_map.mp hmem with ⟨entry, hentry, heq⟩
  rw [← heq]
  exact h.probabilities entry hentry

theorem monotoneOn_orderStatistic_values (pValues : Dict String ℚ) :
    MonotoneOn (orderStatistic pValues.values) (Set.Icc 1 pValues.size) := by
  rw [← length_values]
  exact monotoneOn_orderStatistic _

/-- Of two hypotheses the one with the larger p-value has the larger adjusted
value; with equal p-values the adjusted values are equal. -/
theorem adjusted_le_of_raw_le (h : Family pValues) {q : ℚ} {name' : String}
    (hname : name ∈ pValues.entries.map Prod.fst) (hname' : name' ∈ pValues.entries.map Prod.fst)
    (hle : (decision pValues q name).rawPValue ≤ (decision pValues q name').rawPValue) :
    (decision pValues q name).adjustedPValue ≤ (decision pValues q name').adjustedPValue := by
  have hmono := monotoneOn_orderStatistic_values pValues
  rcases decision_rank (q := q) hname with ⟨j, hj, hjm, hraw, hadj⟩
  rcases decision_rank (q := q) hname' with ⟨k, hk, hkm, hraw', hadj'⟩
  rcases le_total j k with hjk | hkj
  · exact hadj.mono hadj' hjk
  · -- the larger rank has the same value, so the ranks are tied
    rw [hraw, hraw'] at hle
    have htie := le_antisymm (hmono ⟨hk, hkm⟩ ⟨hj, hjm⟩ hkj) hle
    exact (hadj'.eq_of_tie hmono (orderStatistic_probability h) hadj hk hkj hjm htie).ge

/-- What the code decides is the step-up rule, ties included. -/
theorem isStepUp_decisions (h : Family pValues) {q : ℚ} (hq : 0 < q ∧ q < 1) :
    IsStepUp pValues q ((sortedBy id (pValues.entries.map Prod.fst)).map (decision pValues q)) where
  nodup := by
    rw [map_map]
    have hnames : (MultiplicityDecision.name ∘ decision pValues q) = id := rfl
    rw [hnames, map_id]
    exact (sortedBy_perm _ _).nodup_iff.mpr pValues.nodup
  covers := by
    intro name value
    constructor
    · rintro ⟨d, hd, rfl, rfl⟩
      rcases mem_map.mp hd with ⟨name, hname, rfl⟩
      rcases mem_map.mp (mem_sortedBy.mp hname) with ⟨entry, hentry, rfl⟩
      change pValues.get? entry.1 = some (valueOf pValues entry.1)
      rw [valueOf_of_mem hentry]
      exact mem_entries_iff.mp hentry
    · intro hget
      have hentry := mem_entries_iff.mpr hget
      refine ⟨decision pValues q name, mem_map_of_mem (mem_sortedBy.mpr ?_), rfl, ?_⟩
      · exact mem_map_of_mem (f := Prod.fst) hentry
      · exact valueOf_of_mem hentry
  rejects := by
    intro d hd
    rcases mem_map.mp hd with ⟨name, hname, rfl⟩
    rcases decision_rank (q := q) (mem_sortedBy.mp hname) with ⟨k, hk, hkm, hraw, hadj⟩
    rw [hraw, ← hadj.le_iff_rejected (monotoneOn_orderStatistic_values pValues) hk hkm hq.1 hq.2]
    exact decide_eq_true_iff
  mono := by
    intro d hd d' hd' hle
    rcases mem_map.mp hd with ⟨name, hname, rfl⟩
    rcases mem_map.mp hd' with ⟨name', hname', rfl⟩
    exact adjusted_le_of_raw_le h (mem_sortedBy.mp hname) (mem_sortedBy.mp hname') hle
  ties := by
    intro d hd d' hd' htie
    rcases mem_map.mp hd with ⟨name, hname, rfl⟩
    rcases mem_map.mp hd' with ⟨name', hname', rfl⟩
    -- equal values have equal adjusted values, whatever their ranks
    have hadj : (decision pValues q name).adjustedPValue =
        (decision pValues q name').adjustedPValue :=
      le_antisymm (adjusted_le_of_raw_le h (mem_sortedBy.mp hname) (mem_sortedBy.mp hname') htie.le)
        (adjusted_le_of_raw_le h (mem_sortedBy.mp hname') (mem_sortedBy.mp hname) htie.ge)
    refine ⟨hadj, ?_⟩
    change decide ((decision pValues q name).adjustedPValue ≤ q) =
      decide ((decision pValues q name').adjustedPValue ≤ q)
    rw [hadj]
  bounds := by
    intro d hd
    rcases mem_map.mp hd with ⟨name, hname, rfl⟩
    rcases decision_rank (q := q) (mem_sortedBy.mp hname) with ⟨k, hk, hkm, hraw, hadj⟩
    rw [hraw]
    exact ⟨hadj.raw_le (monotoneOn_orderStatistic_values pValues) (orderStatistic_probability h)
      hk hkm, hadj.le_one⟩

/-! ## The insertion order -/

section

variable {pValues' : Dict String ℚ}

theorem valueOf_congr (hperm : pValues'.entries.Perm pValues.entries) :
    valueOf pValues' = valueOf pValues := by
  funext name
  have hget : pValues'.get? name = pValues.get? name := by
    apply Option.ext
    intro value
    rw [← mem_entries_iff, ← mem_entries_iff, hperm.mem_iff]
  rw [valueOf, valueOf, hget]

theorem ordered_congr (hperm : pValues'.entries.Perm pValues.entries) :
    ordered pValues' = ordered pValues := by
  rw [ordered, ordered, valueOf_congr hperm]
  refine sortedBy_congr ?_ (hperm.map Prod.fst)
  refine pValues'.nodup.map ?_
  intro name name' heq
  exact congrArg (fun key => (ofLex key).2) heq

theorem adjustFrom_congr (hperm : pValues'.entries.Perm pValues.entries) (names : List String)
    (rank : ℕ) (runningMinimum : ℚ) (adjusted : Dict String ℚ) :
    adjustFrom pValues' names rank runningMinimum adjusted =
      adjustFrom pValues names rank runningMinimum adjusted := by
  induction rank generalizing runningMinimum adjusted with
  | zero => rfl
  | succ rank ih =>
    rw [adjustFrom, adjustFrom, valueOf_congr hperm]
    exact ih _ _

theorem Family.perm (h : Family pValues) (hperm : pValues'.entries.Perm pValues.entries) :
    Family pValues' where
  nonempty := fun hempty => h.nonempty (perm_nil.mp (hempty ▸ hperm.symm))
  named := fun entry hentry => h.named entry (hperm.mem_iff.mp hentry)
  probabilities := fun entry hentry => h.probabilities entry (hperm.mem_iff.mp hentry)

theorem benjaminiHochberg_congr (h : Family pValues) {q : ℚ} (hq : 0 < q ∧ q < 1)
    (hperm : pValues'.entries.Perm pValues.entries) :
    benjaminiHochberg pValues' q = benjaminiHochberg pValues q := by
  have hnames : sortedBy id (pValues'.entries.map Prod.fst) =
      sortedBy id (pValues.entries.map Prod.fst) :=
    sortedBy_congr (by rw [map_id]; exact pValues'.nodup) (hperm.map Prod.fst)
  have hdecision : decision pValues' q = decision pValues q := by
    funext name
    rw [decision, decision, ordered_congr hperm, adjustFrom_congr hperm, valueOf_congr hperm]
  rw [benjaminiHochberg_eq (h.perm hperm) hq, benjaminiHochberg_eq h hq, hnames, hdecision]

end

/-- The adjustment returns the decisions of the step-up definition, whatever the
order in which the mapping was built. -/
theorem benjaminiHochberg_isStepUp {pValues : Dict String ℚ} {q : ℚ} (h : Family pValues)
    (hq : 0 < q ∧ q < 1) :
    ∃ decisions, benjaminiHochberg pValues q = .ok decisions ∧ IsStepUp pValues q decisions ∧
      ∀ pValues' : Dict String ℚ, pValues'.entries.Perm pValues.entries →
        benjaminiHochberg pValues' q = .ok decisions := by
  refine ⟨_, benjaminiHochberg_eq h hq, isStepUp_decisions h hq, ?_⟩
  intro pValues' hperm
  rw [benjaminiHochberg_congr h hq hperm, benjaminiHochberg_eq h hq]

/-- Four hypotheses of which two are tied. -/
def breadthFamily : Dict String ℚ where
  entries := [("latency", 1 / 50), ("accept", 1 / 100), ("drift", 1 / 50), ("memory", 3 / 5)]
  nodup := by decide

theorem family_breadthFamily : Family breadthFamily where
  nonempty := by decide
  named := by decide
  probabilities := by
    simp only [breadthFamily, forall_mem_cons, not_mem_nil, false_implies, implies_true]
    norm_num

theorem benjaminiHochberg_breadthFamily :
    ∃ decisions, benjaminiHochberg breadthFamily (1 / 20) = .ok decisions ∧
      IsStepUp breadthFamily (1 / 20) decisions ∧
      ∀ pValues' : Dict String ℚ, pValues'.entries.Perm breadthFamily.entries →
        benjaminiHochberg pValues' (1 / 20) = .ok decisions :=
  benjaminiHochberg_isStepUp family_breadthFamily (by norm_num)

end Statistics

import Mathlib.MeasureTheory.Measure.Lebesgue.Basic
import Mathlib.Data.Prod.Lex
import LightConeSpec.Lib.Python

/-!
# Unions of intervals

A list of closed intervals with natural end points, merged by one pass over the
sorted list. `merge` keeps the union (`cover_merge`) and returns separated
intervals (`separated_merge`), so the sum of the lengths it returns is the
Lebesgue measure of the union (`volume_cover`).

Nested merging needs no rule of its own: a union of unions is read through
`cover`, and `cover_flatMap` says that merging the parts first changes nothing.
-/

namespace Intervals

open MeasureTheory Python List

/-- A closed interval, its start and its finish. -/
abbrev Interval := ℕ × ℕ

/-- Every interval starts before it finishes. -/
def Ordered (intervals : List Interval) : Prop :=
  ∀ i ∈ intervals, i.1 ≤ i.2

instance (intervals : List Interval) : Decidable (Ordered intervals) :=
  inferInstanceAs (Decidable (∀ i ∈ intervals, i.1 ≤ i.2))

/-- The pass over intervals sorted by their start: `last` is the interval that
may still grow. -/
def coalesce : Interval → List Interval → List Interval
  | last, [] => [last]
  | last, i :: rest =>
    if last.2 < i.1 then last :: coalesce i rest
    else coalesce (last.1, max last.2 i.2) rest

/-- The canonical union: sorted, and with a gap between neighbours. -/
def merge (intervals : List Interval) : List Interval :=
  match sortedBy toLex intervals with
  | [] => []
  | i :: rest => coalesce i rest

def totalLength (intervals : List Interval) : ℕ :=
  (intervals.map fun i => i.2 - i.1).sum

def unionLength (intervals : List Interval) : ℕ :=
  totalLength (merge intervals)

/-! ## The union as a set -/

/-- The points that some interval covers. -/
def cover (intervals : List Interval) : Set ℝ :=
  ⋃ i ∈ intervals, Set.Icc (i.1 : ℝ) i.2

@[simp] theorem cover_nil : cover [] = ∅ := by simp [cover]

@[simp] theorem cover_cons (i : Interval) (rest : List Interval) :
    cover (i :: rest) = Set.Icc (i.1 : ℝ) i.2 ∪ cover rest := by
  simp [cover, Set.iUnion_or, Set.iUnion_union_distrib]

variable {intervals intervals' rest : List Interval} {last : Interval}

theorem mem_cover {x : ℝ} : x ∈ cover intervals ↔ ∃ i ∈ intervals, (i.1 : ℝ) ≤ x ∧ x ≤ i.2 := by
  simp only [cover, Set.mem_iUnion, Set.mem_Icc, exists_prop]

theorem cover_mono (h : intervals ⊆ intervals') : cover intervals ⊆ cover intervals' := by
  intro x hx
  obtain ⟨i, hi, hx⟩ := mem_cover.mp hx
  exact mem_cover.mpr ⟨i, h hi, hx⟩

theorem cover_congr (h : ∀ i, i ∈ intervals ↔ i ∈ intervals') :
    cover intervals = cover intervals' :=
  Set.Subset.antisymm (cover_mono fun i hi => (h i).mp hi) (cover_mono fun i hi => (h i).mpr hi)

theorem measurableSet_cover (intervals : List Interval) : MeasurableSet (cover intervals) := by
  induction intervals with
  | nil => simp
  | cons i rest ih =>
    rw [cover_cons]
    exact measurableSet_Icc.union ih

/-! ## One pass -/

theorem ordered_sorted (h : Ordered intervals) : Ordered (sortedBy toLex intervals) :=
  fun i hi => h i (mem_sortedBy.mp hi)

/-- In the sorted list the starts ascend. -/
theorem sorted_starts (intervals : List Interval) :
    (sortedBy toLex intervals).Pairwise fun a b => a.1 ≤ b.1 := by
  refine (sortedBy_pairwise toLex intervals).imp ?_
  intro a b h
  rcases Prod.Lex.le_iff.mp h with h | h
  · exact le_of_lt h
  · exact le_of_eq h.1

variable {i : Interval}

/-- Two intervals that touch or overlap make one. -/
theorem Icc_union_of_le (hstart : last.1 ≤ i.1) (htouch : i.1 ≤ last.2) :
    Set.Icc (last.1 : ℝ) last.2 ∪ Set.Icc (i.1 : ℝ) i.2
      = Set.Icc (last.1 : ℝ) (max last.2 i.2 : ℕ) := by
  ext x
  simp only [Set.mem_union, Set.mem_Icc, Nat.cast_max, le_max_iff]
  constructor
  · rintro (⟨h₁, h₂⟩ | ⟨h₁, h₂⟩)
    · exact ⟨h₁, .inl h₂⟩
    · exact ⟨(Nat.cast_le.mpr hstart).trans h₁, .inr h₂⟩
  · rintro ⟨h₁, h₂ | h₂⟩
    · exact .inl ⟨h₁, h₂⟩
    · by_cases hx : x ≤ last.2
      · exact .inl ⟨h₁, hx⟩
      · exact .inr ⟨(Nat.cast_le.mpr htouch).trans (le_of_not_ge hx), h₂⟩

theorem cover_coalesce (hordered : Ordered (last :: rest))
    (hsorted : (last :: rest).Pairwise fun a b => a.1 ≤ b.1) :
    cover (coalesce last rest) = cover (last :: rest) := by
  induction rest generalizing last with
  | nil => rfl
  | cons i rest ih =>
    have hlast := hordered last (by simp)
    rw [pairwise_cons] at hsorted
    have hstart := hsorted.1 i (by simp)
    unfold coalesce
    split
    · rw [cover_cons, cover_cons last, ih (fun j hj => hordered j (by simp [hj])) hsorted.2]
    · rename_i htouch
      rw [ih, cover_cons, cover_cons last, cover_cons i, ← Set.union_assoc,
        Icc_union_of_le hstart (not_lt.mp htouch)]
      · intro j hj
        rcases mem_cons.mp hj with rfl | hj
        · exact hlast.trans (le_max_left _ _)
        · exact hordered j (by simp [hj])
      · rw [pairwise_cons] at hsorted ⊢
        exact ⟨fun j hj => hstart.trans (hsorted.2.1 j hj), hsorted.2.2⟩

/-- Merging keeps the union. -/
theorem cover_merge (h : Ordered intervals) : cover (merge intervals) = cover intervals := by
  have hsame : cover (sortedBy toLex intervals) = cover intervals :=
    cover_congr fun i => mem_sortedBy
  have hordered := ordered_sorted h
  have hsorted := sorted_starts intervals
  unfold merge
  split
  · rename_i hnil
    rw [← hsame, hnil]
  · rename_i i rest hcons
    rw [hcons] at hordered hsorted hsame
    rw [cover_coalesce hordered hsorted, hsame]

/-! ## The intervals that are returned -/

/-- There is a gap between neighbours, and each interval is ordered. -/
def Separated (intervals : List Interval) : Prop :=
  Ordered intervals ∧ intervals.Pairwise fun a b => a.2 < b.1

theorem separated_cons :
    Separated (i :: rest) ↔ i.1 ≤ i.2 ∧ (∀ j ∈ rest, i.2 < j.1) ∧ Separated rest := by
  unfold Separated Ordered
  rw [pairwise_cons, forall_mem_cons]
  tauto

/-- The pass starts where its first interval does. -/
theorem start_le_of_mem_coalesce (hsorted : (last :: rest).Pairwise fun a b => a.1 ≤ b.1) :
    ∀ j ∈ coalesce last rest, last.1 ≤ j.1 := by
  induction rest generalizing last with
  | nil =>
    intro j hj
    rw [mem_singleton.mp hj]
  | cons i rest ih =>
    rw [pairwise_cons] at hsorted
    intro j hj
    unfold coalesce at hj
    split at hj
    · rcases mem_cons.mp hj with rfl | hj
      · exact le_refl _
      · exact (hsorted.1 i (by simp)).trans (ih hsorted.2 j hj)
    · have hgrown : ((last.1, max last.2 i.2) :: rest).Pairwise fun a b => a.1 ≤ b.1 :=
        pairwise_cons.mpr
          ⟨fun k hk => hsorted.1 k (by simp [hk]), (pairwise_cons.mp hsorted.2).2⟩
      exact ih hgrown j hj

theorem separated_coalesce (hordered : Ordered (last :: rest))
    (hsorted : (last :: rest).Pairwise fun a b => a.1 ≤ b.1) : Separated (coalesce last rest) := by
  induction rest generalizing last with
  | nil => exact ⟨hordered, pairwise_singleton _ _⟩
  | cons i rest ih =>
    have hlast := hordered last (by simp)
    have hrest : Ordered (i :: rest) := fun j hj => hordered j (by simp [hj])
    rw [pairwise_cons] at hsorted
    unfold coalesce
    split
    · rename_i hgap
      refine separated_cons.mpr ⟨hlast, fun j hj => ?_, ih hrest hsorted.2⟩
      exact lt_of_lt_of_le hgap (start_le_of_mem_coalesce hsorted.2 j hj)
    · refine ih (fun j hj => ?_) ?_
      · rcases mem_cons.mp hj with rfl | hj
        · exact hlast.trans (le_max_left _ _)
        · exact hrest j (by simp [hj])
      · rw [pairwise_cons]
        exact ⟨fun k hk => hsorted.1 k (by simp [hk]), (pairwise_cons.mp hsorted.2).2⟩

theorem separated_merge (h : Ordered intervals) : Separated (merge intervals) := by
  have hordered := ordered_sorted h
  have hsorted := sorted_starts intervals
  unfold merge
  split
  · exact ⟨fun j hj => absurd hj (by simp), List.Pairwise.nil⟩
  · rename_i i rest hcons
    rw [hcons] at hordered hsorted
    exact separated_coalesce hordered hsorted

/-! ## The measure of the union -/

theorem volume_Icc_interval (h : i.1 ≤ i.2) :
    volume (Set.Icc (i.1 : ℝ) i.2) = ((i.2 - i.1 : ℕ) : ENNReal) := by
  rw [Real.volume_Icc, ← Nat.cast_sub h, ENNReal.ofReal_natCast]

theorem volume_cover_of_separated (h : Separated intervals) :
    volume (cover intervals) = (totalLength intervals : ENNReal) := by
  induction intervals with
  | nil => simp [totalLength]
  | cons i rest ih =>
    obtain ⟨hi, hgap, hrest⟩ := separated_cons.mp h
    have hdisjoint : Disjoint (Set.Icc (i.1 : ℝ) i.2) (cover rest) := by
      rw [Set.disjoint_left]
      intro x hx hcover
      obtain ⟨j, hj, hjx, -⟩ := mem_cover.mp hcover
      have hlt : (i.2 : ℝ) < j.1 := Nat.cast_lt.mpr (hgap j hj)
      exact absurd (hx.2.trans_lt hlt) (not_lt.mpr hjx)
    rw [cover_cons, measure_union hdisjoint (measurableSet_cover rest), volume_Icc_interval hi,
      ih hrest]
    simp [totalLength]

/-- The length of the merged intervals is the measure of their union. -/
theorem volume_cover (h : Ordered intervals) :
    volume (cover intervals) = (unionLength intervals : ENNReal) := by
  rw [← cover_merge h, volume_cover_of_separated (separated_merge h)]
  rfl

/-- Equal unions have equal lengths, whatever the lists they come from. -/
theorem unionLength_congr (h : Ordered intervals) (h' : Ordered intervals')
    (hcover : cover intervals = cover intervals') :
    unionLength intervals = unionLength intervals' := by
  have hvolume := volume_cover h
  rw [hcover, volume_cover h'] at hvolume
  exact_mod_cast hvolume.symm

theorem unionLength_mono (h : Ordered intervals) (h' : Ordered intervals')
    (hcover : cover intervals ⊆ cover intervals') :
    unionLength intervals ≤ unionLength intervals' := by
  have hvolume := measure_mono (μ := volume) hcover
  rw [volume_cover h, volume_cover h'] at hvolume
  exact_mod_cast hvolume

/-! ## Merging in parts -/

theorem ordered_merge (h : Ordered intervals) : Ordered (merge intervals) :=
  (separated_merge h).1

theorem ordered_flatMap {α : Type*} {parts : List α} {f : α → List Interval} :
    Ordered (parts.flatMap f) ↔ ∀ part ∈ parts, Ordered (f part) := by
  unfold Ordered
  simp only [mem_flatMap]
  constructor
  · intro h part hpart i hi
    exact h i ⟨part, hpart, hi⟩
  · rintro h i ⟨part, hpart, hi⟩
    exact h part hpart i hi

theorem cover_flatMap {α : Type*} (parts : List α) (f : α → List Interval) :
    cover (parts.flatMap f) = ⋃ part ∈ parts, cover (f part) := by
  ext x
  simp only [mem_cover, mem_flatMap, Set.mem_iUnion]
  constructor
  · rintro ⟨i, ⟨part, hpart, hi⟩, hx⟩
    exact ⟨part, hpart, i, hi, hx⟩
  · rintro ⟨part, hpart, i, hi, hx⟩
    exact ⟨i, ⟨part, hpart, hi⟩, hx⟩

/-- A union is at most the sum of its parts. -/
theorem unionLength_flatMap_le {α : Type*} {parts : List α} {f : α → List Interval}
    (h : ∀ part ∈ parts, Ordered (f part)) :
    unionLength (parts.flatMap f) ≤ (parts.map fun part => unionLength (f part)).sum := by
  induction parts with
  | nil => exact le_refl 0
  | cons part parts ih =>
    have hpart := h part (by simp)
    have hparts : ∀ q ∈ parts, Ordered (f q) := fun q hq => h q (by simp [hq])
    have hall : Ordered ((part :: parts).flatMap f) := ordered_flatMap.mpr h
    have hsub : volume (cover ((part :: parts).flatMap f))
        ≤ volume (cover (f part)) + volume (cover (parts.flatMap f)) := by
      refine (measure_mono ?_).trans (measure_union_le _ _)
      intro x hx
      obtain ⟨i, hi, hx⟩ := mem_cover.mp hx
      rw [flatMap_cons, mem_append] at hi
      rcases hi with hi | hi
      · exact .inl (mem_cover.mpr ⟨i, hi, hx⟩)
      · exact .inr (mem_cover.mpr ⟨i, hi, hx⟩)
    rw [volume_cover hall, volume_cover hpart, volume_cover (ordered_flatMap.mpr hparts)] at hsub
    have hnat : unionLength ((part :: parts).flatMap f)
        ≤ unionLength (f part) + unionLength (parts.flatMap f) := by exact_mod_cast hsub
    rw [map_cons, sum_cons]
    exact hnat.trans (Nat.add_le_add_left (ih hparts) _)

/-! ## Lists that are canonical already -/

theorem coalesce_of_separated (h : Separated (last :: rest)) :
    coalesce last rest = last :: rest := by
  induction rest generalizing last with
  | nil => rfl
  | cons i rest ih =>
    obtain ⟨-, hgap, hrest⟩ := separated_cons.mp h
    rw [coalesce, if_pos (hgap i (by simp)), ih hrest]

theorem sortedBy_of_separated (h : Separated intervals) : sortedBy toLex intervals = intervals := by
  unfold sortedBy
  refine List.Pairwise.insertionSort_eq ?_
  refine List.Pairwise.imp_of_mem ?_ h.2
  intro a b ha _ hgap
  exact Prod.Lex.le_iff.mpr (.inl (lt_of_le_of_lt (h.1 a ha) hgap))

theorem merge_of_separated (h : Separated intervals) : merge intervals = intervals := by
  unfold merge
  rw [sortedBy_of_separated h]
  split
  · rfl
  · exact coalesce_of_separated h

/-- Ordered intervals are canonical exactly when merging returns them. -/
theorem merge_eq_self_iff (h : Ordered intervals) :
    merge intervals = intervals ↔ Separated intervals :=
  ⟨fun heq => heq ▸ separated_merge h, merge_of_separated⟩

theorem ordered_snoc : Ordered (intervals ++ [i]) ↔ Ordered intervals ∧ i.1 ≤ i.2 := by
  simp [Ordered, or_imp, forall_and]

/-- The intervals of a separated list all end by the last one. -/
theorem le_of_getLast? (h : Separated intervals) (hlast : intervals.getLast? = some last)
    {x : Interval} (hx : x ∈ intervals) : x.2 ≤ last.2 := by
  rcases getLast?_eq_some_iff.mp hlast with ⟨before, rfl⟩
  rcases mem_append.mp hx with hx | hx
  · have hgap := (pairwise_append.mp h.2).2.2 x hx last mem_cons_self
    have hordered := h.1 last (mem_append_right _ mem_cons_self)
    omega
  · rw [mem_singleton.mp hx]

/-- An interval can be added behind a separated list when it starts strictly after
the last one: intervals that touch are one interval. -/
theorem separated_snoc (h : Separated intervals) (hlast : intervals.getLast? = some last)
    (hi : i.1 ≤ i.2) : Separated (intervals ++ [i]) ↔ last.2 < i.1 := by
  constructor
  · intro hsep
    have hmem : last ∈ intervals := mem_of_getLast? hlast
    exact (pairwise_append.mp hsep.2).2.2 last hmem i mem_cons_self
  · intro hgap
    refine ⟨ordered_snoc.mpr ⟨h.1, hi⟩, pairwise_append.mpr ⟨h.2, pairwise_singleton _ _, ?_⟩⟩
    intro x hx y hy
    rw [mem_singleton.mp hy]
    exact lt_of_le_of_lt (le_of_getLast? h hlast hx) hgap

example : merge [(5, 7), (0, 2), (2, 3), (6, 6), (9, 9)] = [(0, 3), (5, 7), (9, 9)] := by decide

end Intervals

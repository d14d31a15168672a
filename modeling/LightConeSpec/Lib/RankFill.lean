import Mathlib.Data.List.Nodup
import Mathlib.Data.List.Perm.Subperm

/-!
# Filling a selection in rank order

A selection is a list of keys without repetition. It starts with some keys and takes those of
a ranking, the best first, until it has the size that is wanted.

The keys that are taken are those of an initial part of the ranking, `fill_split`, so whatever
is taken stands before whatever is left.
-/

namespace RankFill

open List

variable {α β : Type*} [DecidableEq α] {key : β → α} {count : ℕ}

/-- Take keys of the ranking until there are `count`. -/
def fill (key : β → α) (count : ℕ) : List α → List β → List α
  | selected, [] => selected
  | selected, row :: ranking =>
    if count ≤ selected.length then selected
    else fill key count (selected.insert (key row)) ranking

/-- What is taken is an initial part of the ranking. -/
theorem fill_split (selected : List α) (ranking : List β) : ∃ taken rest, ranking = taken ++ rest ∧
      ∀ a, a ∈ fill key count selected ranking ↔ a ∈ selected ∨ a ∈ taken.map key := by
  induction ranking generalizing selected with
  | nil => exact ⟨[], [], rfl, fun a => by simp [fill]⟩
  | cons row ranking ih =>
    unfold fill
    split
    · exact ⟨[], row :: ranking, rfl, fun a => by simp⟩
    · rcases ih (selected.insert (key row)) with ⟨taken, rest, rfl, hmem⟩
      refine ⟨row :: taken, rest, rfl, fun a => ?_⟩
      rw [hmem a, mem_insert_iff, map_cons, mem_cons]
      tauto

variable {selected : List α} {ranking : List β}

theorem mem_fill_of_mem {a : α} (ha : a ∈ selected) : a ∈ fill key count selected ranking := by
  rcases fill_split selected ranking with ⟨taken, rest, -, hmem⟩
  exact (hmem a).mpr (Or.inl ha)

/-- A key of the selection was there at the start or is in the ranking. -/
theorem mem_of_mem_fill {a : α} (ha : a ∈ fill key count selected ranking) :
    a ∈ selected ∨ a ∈ ranking.map key := by
  rcases fill_split selected ranking with ⟨taken, rest, heq, hmem⟩
  rcases (hmem a).mp ha with h | h
  · exact Or.inl h
  · right
    rw [heq, map_append]
    exact mem_append_left _ h

theorem nodup_fill (hnd : selected.Nodup) (ranking : List β) :
    (fill key count selected ranking).Nodup := by
  induction ranking generalizing selected with
  | nil => exact hnd
  | cons row ranking ih =>
    unfold fill
    split
    · exact hnd
    · exact ih hnd.insert

theorem length_fill_le (hle : selected.length ≤ count) (ranking : List β) :
    (fill key count selected ranking).length ≤ count := by
  induction ranking generalizing selected with
  | nil => exact hle
  | cons row ranking ih =>
    unfold fill
    split
    · exact hle
    · rename_i hlt
      apply ih
      by_cases hmem : key row ∈ selected
      · rwa [insert_of_mem hmem]
      · rw [insert_of_not_mem hmem, length_cons]
        omega

/-- A ranking with enough keys fills the selection. -/
theorem le_length_fill {all : List α} (hnd : all.Nodup)
    (hall : ∀ a ∈ all, a ∈ selected ∨ a ∈ ranking.map key) (hcount : count ≤ all.length) :
    count ≤ (fill key count selected ranking).length := by
  induction ranking generalizing selected with
  | nil =>
    have hsub : all ⊆ selected := by
      intro a ha
      rcases hall a ha with h | h
      · exact h
      · cases h
    exact Nat.le_trans hcount (hnd.subperm hsub).length_le
  | cons row ranking ih =>
    unfold fill
    split
    · assumption
    · apply ih
      intro a ha
      rcases hall a ha with h | h
      · exact Or.inl (mem_insert_of_mem h)
      · rw [map_cons, mem_cons] at h
        rcases h with rfl | h
        · exact Or.inl mem_insert_self
        · exact Or.inr h

/-- What was taken stands before what was left. -/
theorem rel_of_taken {R : β → β → Prop} (hranked : ranking.Pairwise R) {a b : β}
    (ha : key a ∈ fill key count selected ranking) (hfloor : key a ∉ selected)
    (hinj : ∀ c ∈ ranking, key c = key a → c = a) (hb : b ∈ ranking)
    (hout : key b ∉ fill key count selected ranking) : R a b := by
  rcases fill_split selected ranking with ⟨taken, rest, heq, hmem⟩
  have hkey : key a ∈ taken.map key := ((hmem _).mp ha).resolve_left hfloor
  rcases mem_map.mp hkey with ⟨c, hc, hca⟩
  have hcrank : c ∈ ranking := by
    rw [heq]
    exact mem_append_left _ hc
  have hac : c = a := hinj c hcrank hca
  have hbrest : b ∈ rest := by
    rw [heq, mem_append] at hb
    rcases hb with h | h
    · exact absurd ((hmem _).mpr (Or.inr (mem_map_of_mem h))) hout
    · exact h
  rw [heq, pairwise_append] at hranked
  rw [← hac]
  exact hranked.2.2 c hc b hbrest

end RankFill

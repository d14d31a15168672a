import Mathlib.Order.Lattice
import Mathlib.Data.List.Induction
import Mathlib.Order.Defs.LinearOrder
import LightConeSpec.Lib.Dict

/-!
# Grouping rows

`grouped.setdefault(key(row), []).append(row)` over a list of rows: the entry of
a key holds the rows of that key in their order, and over rows that are sorted
by the key the entries are sorted too.
-/

namespace Dict

open List

variable {K β : Type} [DecidableEq K]

theorem map_fst_set (d : Dict K β) (k : K) (value : β) : (d.set k value).entries.map Prod.fst =
      if k ∈ d.entries.map Prod.fst then d.entries.map Prod.fst
      else d.entries.map Prod.fst ++ [k] := by
  unfold set
  split
  · exact d.map_fst_replace k value
  · rw [map_append]
    rfl

variable (key : β → K)

def group (rows : List β) : Dict K (List β) :=
  rows.foldl (fun d row => d.set (key row) ((d.get? (key row)).getD [] ++ [row])) empty

theorem group_append (rows : List β) (row : β) :
    group key (rows ++ [row]) = (group key rows).set (key row)
      (((group key rows).get? (key row)).getD [] ++ [row]) := by
  simp [group]

variable {key}

theorem get?_group (rows : List β) (k : K) : (group key rows).get? k =
      if k ∈ rows.map key then some (rows.filter fun row => key row = k) else none := by
  induction rows using List.reverseRecOn with
  | nil => rfl
  | append_singleton rows row ih =>
    rw [group_append, get?_set]
    by_cases hk : k = key row
    · subst hk
      have hold : ((group key rows).get? (key row)).getD [] =
          rows.filter fun other => key other = key row := by
        rw [ih]
        by_cases hmem : key row ∈ rows.map key
        · rw [if_pos hmem]
          rfl
        · rw [if_neg hmem]
          refine (filter_eq_nil_iff.mpr fun other hother => ?_).symm
          simpa using fun heq => hmem (mem_map.mpr ⟨other, hother, heq⟩)
      rw [if_pos rfl, if_pos (by simp), hold, filter_append]
      simp
    · rw [if_neg hk, ih]
      have hne : ¬ key row = k := fun h => hk h.symm
      simp [filter_append, hne, hk]

variable {rows : List β}

theorem mem_group {k : K} {members : List β} : (k, members) ∈ (group key rows).entries ↔
      k ∈ rows.map key ∧ members = rows.filter fun row => key row = k := by
  rw [mem_entries_iff, get?_group]
  by_cases hmem : k ∈ rows.map key
  · rw [if_pos hmem, Option.some.injEq, eq_comm]
    exact ⟨fun h => ⟨hmem, h⟩, fun h => h.2⟩
  · rw [if_neg hmem]
    exact ⟨nofun, fun h => absurd h.1 hmem⟩

theorem mem_keys_group {k : K} : k ∈ (group key rows).entries.map Prod.fst ↔ k ∈ rows.map key := by
  constructor
  · intro h
    obtain ⟨⟨k', members⟩, hentry, rfl⟩ := mem_map.mp h
    exact (mem_group.mp hentry).1
  · intro h
    exact mem_map.mpr ⟨(k, _), mem_group.mpr ⟨h, rfl⟩, rfl⟩

/-- The keys of sorted rows come in order. -/
theorem keys_group_sorted [LinearOrder K] (h : rows.Pairwise fun a b => key a ≤ key b) :
    ((group key rows).entries.map Prod.fst).Pairwise (· < ·) := by
  induction rows using List.reverseRecOn with
  | nil => exact List.Pairwise.nil
  | append_singleton rows row ih =>
    obtain ⟨hrows, _, hlast⟩ := pairwise_append.mp h
    rw [group_append, map_fst_set]
    split
    · exact ih hrows
    · rename_i hnew
      rw [pairwise_append]
      refine ⟨ih hrows, pairwise_singleton _ _, fun k hk k' hk' => ?_⟩
      rw [mem_singleton.mp hk']
      obtain ⟨other, hother, rfl⟩ := mem_map.mp (mem_keys_group.mp hk)
      refine lt_of_le_of_ne (hlast other hother row (by simp)) fun heq => hnew ?_
      rw [← heq]
      exact hk

end Dict

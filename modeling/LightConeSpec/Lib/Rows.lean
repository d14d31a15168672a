import Mathlib.Order.Lattice
import Mathlib.Algebra.BigOperators.Group.List.Basic
import Mathlib.Data.List.Nodup
import Mathlib.Order.Defs.LinearOrder

/-!
# Rows with a unique key

Facts about a table, a list of rows whose keys are distinct: a query by the key
finds its row, and a write to one row moves the total of a column by what that
row gains.
-/

namespace Rows

open List

variable {β κ : Type*} {key : β → κ} {rows : List β}

/-- A query by a unique key finds the row that has it. -/
theorem find?_of_nodup (hnd : (rows.map key).Nodup) {row : β} (hrow : row ∈ rows) {p : β → Bool}
    (hp : ∀ b, p b = true ↔ key b = key row) : rows.find? p = some row := by
  cases hfind : rows.find? p with
  | none => exact absurd ((hp row).mpr rfl) (by simp [find?_eq_none.mp hfind row hrow])
  | some found =>
    have hkey := (hp found).mp (find?_some hfind)
    rw [inj_on_of_nodup_map hnd (mem_of_find?_eq_some hfind) hrow hkey]

/-- The total of a column after a write that adds `gain` to one row. -/
theorem sum_map_add {M : Type*} [AddCommMonoid M] (hnd : (rows.map key).Nodup) {f g : β → M}
    {row : β} (hrow : row ∈ rows) {gain : M} (hgain : g row = f row + gain)
    (hrest : ∀ b ∈ rows, key b ≠ key row → g b = f b) :
    (rows.map g).sum = (rows.map f).sum + gain := by
  induction rows with
  | nil => cases hrow
  | cons head tail ih =>
    rw [map_cons, nodup_cons] at hnd
    simp only [map_cons, sum_cons]
    rcases mem_cons.mp hrow with rfl | hrow
    · -- the written row is the head, so the tail is as it was
      have htail : tail.map g = tail.map f := by
        apply map_congr_left
        intro b hb
        refine hrest b (by simp [hb]) fun hkey => hnd.1 ?_
        exact mem_map.mpr ⟨b, hb, hkey⟩
      rw [htail, hgain, add_right_comm]
    · have hhead : g head = f head := by
        refine hrest head (by simp) fun hkey => hnd.1 ?_
        rw [hkey]
        exact mem_map.mpr ⟨row, hrow, rfl⟩
      rw [hhead, ih hnd.2 hrow fun b hb => hrest b (by simp [hb]), add_assoc]

/-- The total over the rows that satisfy a condition. -/
theorem sum_map_filter {M : Type*} [AddCommMonoid M] (rows : List β) (p : β → Bool) (f : β → M) :
    ((rows.filter p).map f).sum = (rows.map fun b => if p b = true then f b else 0).sum := by
  rw [sum_map_ite]
  simp

/-- Distinct keys stay distinct when a fresh one is appended. -/
theorem nodup_map_append (hnd : (rows.map key).Nodup) {row : β}
    (hfresh : ∀ b ∈ rows, key b ≠ key row) : ((rows ++ [row]).map key).Nodup := by
  rw [map_append, nodup_append]
  refine ⟨hnd, by simp, ?_⟩
  rintro k hk k' hk' rfl
  obtain ⟨b, hb, rfl⟩ := mem_map.mp hk
  exact hfresh b hb (by simpa using hk')

/-- Two lists with the same keys, mapped by functions that agree on a key. -/
theorem map_eq_map_of_key {β' γ : Type*} {key' : β' → κ} {rows' : List β'} {f : β → γ}
    {g : β' → γ} (hkeys : rows.map key = rows'.map key')
    (h : ∀ b ∈ rows, ∀ b' ∈ rows', key b = key' b' → f b = g b') : rows.map f = rows'.map g := by
  induction rows generalizing rows' with
  | nil => rw [map_eq_nil_iff.mp hkeys.symm]; rfl
  | cons head tail ih =>
    cases rows' with
    | nil => cases hkeys
    | cons head' tail' =>
      simp only [map_cons, List.cons.injEq] at hkeys ⊢
      exact ⟨h head (by simp) head' (by simp) hkeys.1,
        ih hkeys.2 fun b hb b' hb' => h b (by simp [hb]) b' (by simp [hb'])⟩

/-- In a table that is sorted by its key, the order of two rows is that of their
keys. -/
theorem rel_of_key_lt [LinearOrder κ] (hsorted : (rows.map key).Pairwise (· < ·))
    {R : β → β → Prop} (h : rows.Pairwise R) {a b : β} (ha : a ∈ rows) (hb : b ∈ rows)
    (hlt : key a < key b) : R a b := by
  induction rows with
  | nil => cases ha
  | cons head tail ih =>
    rw [map_cons, pairwise_cons] at hsorted
    rw [pairwise_cons] at h
    rcases mem_cons.mp ha with rfl | hatail
    · rcases mem_cons.mp hb with rfl | hbtail
      · exact absurd hlt (lt_irrefl _)
      · exact h.1 b hbtail
    · rcases mem_cons.mp hb with rfl | hbtail
      · exact absurd hlt (hsorted.1 _ (mem_map.mpr ⟨a, hatail, rfl⟩)).asymm
      · exact ih hsorted.2 h.2 hatail hbtail

end Rows

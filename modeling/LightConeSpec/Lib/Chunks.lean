import Mathlib.Data.List.Sort
import Mathlib.Data.List.Nodup
import Mathlib.Data.Finset.Card
import Mathlib.Tactic.Common

/-!
# Cutting a list into groups of one size

A selection from a listing is cut into consecutive groups of `k` elements. The groups
of a selection that keeps the order of the listing are disjoint sets that come one after
another in the listing (`mem_chunk_pairwise`), and every sequence of such sets is cut from
a selection (`exists_chunks`).
-/

namespace Chunks

open List

variable {α : Type*}

/-- The group at a position. -/
def chunk (k : ℕ) (l : List α) (i : ℕ) : List α := (l.drop (i * k)).take k

variable {k n i j : ℕ} {l c : List α}

theorem chunk_sublist (k : ℕ) (l : List α) (i : ℕ) : (chunk k l i).Sublist l :=
  (take_sublist _ _).trans (drop_sublist _ _)

theorem length_chunk (hlen : l.length = n * k) (hi : i < n) : (chunk k l i).length = k := by
  have hroom : (i + 1) * k ≤ n * k := Nat.mul_le_mul_right k hi
  rw [Nat.add_mul, Nat.one_mul] at hroom
  rw [chunk, length_take, length_drop]
  omega

/-- What holds between the elements of a list in their order holds between its groups. -/
theorem mem_chunk_pairwise {R : α → α → Prop} (hl : l.Pairwise R) (hij : i < j) {a b : α}
    (ha : a ∈ chunk k l i) (hb : b ∈ chunk k l j) : R a b := by
  have hsplit : (l.take (j * k) ++ l.drop (j * k)).Pairwise R := by
    rw [take_append_drop]
    exact hl
  have hearly : a ∈ l.take (j * k) := by
    -- group `i` ends where group `i + 1` begins, at `j * k` at the latest
    have hroom : (i + 1) * k ≤ j * k := Nat.mul_le_mul_right k hij
    rw [Nat.add_mul, Nat.one_mul] at hroom
    have ha' : a ∈ (l.take (i * k + k)).drop (i * k) := by
      rw [drop_take, Nat.add_sub_cancel_left]
      exact ha
    have hprefix : l.take (i * k + k) <+: l.take (j * k) := take_prefix_take_left hroom
    exact hprefix.subset (mem_of_mem_drop ha')
  exact (pairwise_append.mp hsplit).2.2 a hearly b (mem_of_mem_take hb)

/-- The groups of a concatenation of lists of one length are those lists. -/
theorem chunk_flatten {ls : List (List α)} (hls : ∀ l ∈ ls, l.length = k) (hi : i < ls.length) :
    chunk k ls.flatten i = ls[i] := by
  induction ls generalizing i with
  | nil => cases hi
  | cons first rest ih =>
    have hfirst : first.length = k := hls first mem_cons_self
    cases i with
    | zero =>
      rw [chunk, Nat.zero_mul, drop_zero, flatten_cons]
      exact take_left' hfirst
    | succ i =>
      have hi' : i < rest.length := Nat.lt_of_succ_lt_succ hi
      have hrest : chunk k rest.flatten i = rest[i] :=
        ih (fun l hl => hls l (mem_cons_of_mem _ hl)) hi'
      rw [getElem_cons_succ, ← hrest, chunk, chunk, flatten_cons, Nat.add_mul,
        Nat.one_mul, Nat.add_comm, ← drop_drop, drop_left' hfirst]

section

variable [DecidableEq α] {listing : List α}

/-- The first element is listed before the second. -/
def Before (listing : List α) (a b : α) : Prop := listing.idxOf a < listing.idxOf b

instance (a b : α) : Decidable (Before listing a b) := inferInstanceAs (Decidable (_ < _))

theorem Before.ne {a b : α} (h : Before listing a b) : a ≠ b := by
  rintro rfl
  exact Nat.lt_irrefl _ h

theorem pairwise_before (hnd : listing.Nodup) : listing.Pairwise (Before listing) := by
  rw [pairwise_iff_getElem]
  intro i j hi hj hij
  rw [Before, hnd.idxOf_getElem, hnd.idxOf_getElem]
  exact hij

/-- Elements of the listing in the order of the listing are a part of it. -/
theorem sublist_of_pairwise (hnd : listing.Nodup) (hsub : ∀ a ∈ c, a ∈ listing)
    (hc : c.Pairwise (Before listing)) : c.Sublist listing := by
  have hcnd : c.Nodup := hc.imp fun h => h.ne
  have hperm : c.Perm (listing.filter (· ∈ c)) := by
    rw [perm_ext_iff_of_nodup hcnd (hnd.filter _)]
    intro a
    simp only [mem_filter, decide_eq_true_eq]
    exact ⟨fun ha => ⟨hsub a ha, ha⟩, fun ha => ha.2⟩
  have hsorted : (listing.filter (· ∈ c)).Pairwise (Before listing) :=
    (pairwise_before hnd).filter _
  have heq : c = listing.filter (· ∈ c) := by
    refine hperm.eq_of_pairwise ?_ hc hsorted
    intro a b _ _ hab hba
    exact absurd hab (Nat.lt_asymm hba)
  rw [heq]
  exact filter_sublist

/-- Sets that come one after another in a listing are the groups of a selection. -/
theorem exists_chunks (hnd : listing.Nodup) {sets : Fin n → Finset α}
    (hsub : ∀ i, ∀ a ∈ sets i, a ∈ listing) (hcard : ∀ i, (sets i).card = k)
    (horder : ∀ i j, i < j → ∀ a ∈ sets i, ∀ b ∈ sets j, Before listing a b) :
    ∃ c, c.Sublist listing ∧ c.length = n * k ∧ ∀ i : Fin n, (chunk k c i).toFinset = sets i := by
  -- each set, written in the order of the listing
  have hmem : ∀ i a, a ∈ listing.filter (· ∈ sets i) ↔ a ∈ sets i := by
    intro i a
    simp only [mem_filter, decide_eq_true_eq]
    exact ⟨fun ha => ha.2, fun ha => ⟨hsub i a ha, ha⟩⟩
  have hset : ∀ i, (listing.filter (· ∈ sets i)).toFinset = sets i := by
    intro i
    ext a
    rw [mem_toFinset, hmem]
  have hlen : ∀ i, (listing.filter (· ∈ sets i)).length = k := by
    intro i
    rw [← toFinset_card_of_nodup (hnd.filter _), hset, hcard]
  let ls : List (List α) := List.ofFn fun i => listing.filter (· ∈ sets i)
  have hls : ∀ l ∈ ls, l.length = k := by
    intro l hl
    rcases mem_ofFn.mp hl with ⟨i, rfl⟩
    exact hlen i
  refine ⟨ls.flatten, ?_, ?_, ?_⟩
  · apply sublist_of_pairwise hnd
    · intro a ha
      rcases mem_flatten.mp ha with ⟨l, hl, hal⟩
      rcases mem_ofFn.mp hl with ⟨i, rfl⟩
      exact (mem_filter.mp hal).1
    · rw [pairwise_flatten]
      constructor
      · intro l hl
        rcases mem_ofFn.mp hl with ⟨i, rfl⟩
        exact (pairwise_before hnd).filter _
      · rw [pairwise_ofFn]
        intro i j hij a ha b hb
        exact horder i j hij a ((hmem i a).mp ha) b ((hmem j b).mp hb)
  · have hsum : (ls.map List.length).sum = (ls.map fun _ => k).sum :=
      congrArg List.sum (map_congr_left hls)
    rw [length_flatten, hsum, map_const', sum_replicate_nat, length_ofFn]
  · intro i
    have hi : (i : ℕ) < ls.length := by
      rw [length_ofFn]
      exact i.isLt
    rw [chunk_flatten hls hi, List.getElem_ofFn]
    exact hset i

end

end Chunks

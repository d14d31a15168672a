import Mathlib.Data.List.Lex
import Mathlib.Order.Lattice
import Mathlib.Tactic.Common

/-!
# Free digests

A digest function that never collides. The digest of a value is a tree that
holds the value, so that injective digests exist for every record of texts,
numbers, pairs, options and lists, records that hold digests of other records
included, and can be computed. They are ordered, as digests written as texts are.
-/

/-- A digest: the content it was taken of. -/
inductive Digest
  | text (value : String)
  | number (value : ℕ)
  | pair (left right : Digest)
deriving DecidableEq

namespace Digest

/-- The digest written out, so that no digest is the beginning of another. -/
def code : Digest → List ℕ
  | .text value => 0 :: value.toList.length :: value.toList.map Char.toNat
  | .number value => [1, value]
  | .pair left right => 2 :: (left.code ++ right.code)

/-- No code of a digest begins another. -/
theorem code_append_inj {a b : Digest} {x y : List ℕ} (h : a.code ++ x = b.code ++ y) :
    a = b ∧ x = y := by
  induction a generalizing b x y with
  | text value =>
    cases b with
    | text value' =>
      simp only [code, List.cons_append, List.cons.injEq, true_and] at h
      obtain ⟨hmap, hrest⟩ := List.append_inj h.2 (by simpa using h.1)
      have hchars := List.map_injective_iff.mpr (fun _ _ => Char.toNat_inj.mp) hmap
      exact ⟨congrArg Digest.text (String.toList_injective hchars), hrest⟩
    | number value' => simp [code] at h
    | pair left right => simp [code] at h
  | number value =>
    cases b with
    | text value' => simp [code] at h
    | number value' =>
      simp only [code, List.cons_append, List.nil_append, List.cons.injEq, true_and] at h
      exact ⟨congrArg Digest.number h.1, h.2⟩
    | pair left right => simp [code] at h
  | pair left right ihleft ihright =>
    cases b with
    | text value' => simp [code] at h
    | number value' => simp [code] at h
    | pair left' right' =>
      simp only [code, List.cons_append, List.append_assoc, List.cons.injEq, true_and] at h
      obtain ⟨rfl, hright⟩ := ihleft h
      obtain ⟨rfl, hrest⟩ := ihright hright
      exact ⟨rfl, hrest⟩

theorem code_injective : Function.Injective code := by
  intro a b h
  exact (code_append_inj (x := []) (y := []) (by rw [h])).1

instance : LinearOrder Digest where
  toPartialOrder := PartialOrder.lift code code_injective
  le_total a b := le_total a.code b.code
  toDecidableLE a b := inferInstanceAs (Decidable (a.code ≤ b.code))
  toDecidableEq := inferInstance
  toDecidableLT a b := inferInstanceAs (Decidable (a.code < b.code))

end Digest

/-- Values with a digest of their own. -/
class Content (α : Type) where
  digest : α → Digest
  injective : Function.Injective digest

namespace Content

variable {α β : Type}

@[reducible] def ofFields [Content β] (fields : α → β)
    (h : Function.Injective fields := by rintro ⟨⟩ ⟨⟩ h; simpa [and_assoc] using h) : Content α :=
  ⟨fun value => digest (fields value), injective.comp h⟩

instance : Content Digest := ⟨id, Function.injective_id⟩

instance : Content String := ⟨.text, fun _ _ h => Digest.text.inj h⟩

instance : Content ℕ := ⟨.number, fun _ _ h => Digest.number.inj h⟩

instance [Content α] [Content β] : Content (α × β) :=
  ⟨fun value => .pair (digest value.1) (digest value.2), fun _ _ h =>
    Prod.ext (injective (Digest.pair.inj h).1) (injective (Digest.pair.inj h).2)⟩

instance : Content ℤ :=
  ofFields (fun value => (value.toNat, (-value).toNat)) (by
    intro a b h
    have hpos := congrArg Prod.fst h
    have hneg := congrArg Prod.snd h
    dsimp only at hpos hneg
    omega)

def digestOption [Content α] : Option α → Digest
  | none => .number 0
  | some value => .pair (.number 0) (digest value)

theorem digestOption_injective [Content α] : Function.Injective (digestOption (α := α)) := by
  intro a b h
  cases a with
  | none =>
    cases b with
    | none => rfl
    | some b => cases h
  | some a =>
    cases b with
    | none => cases h
    | some b => rw [injective (Digest.pair.inj h).2]

instance [Content α] : Content (Option α) := ⟨digestOption, digestOption_injective⟩

def digestList [Content α] : List α → Digest
  | [] => .number 0
  | value :: rest => .pair (digest value) (digestList rest)

theorem digestList_injective [Content α] : Function.Injective (digestList (α := α)) := by
  intro as
  induction as with
  | nil =>
    intro bs h
    cases bs with
    | nil => rfl
    | cons b bs => cases h
  | cons a as ih =>
    intro bs h
    cases bs with
    | nil => cases h
    | cons b bs => rw [injective (Digest.pair.inj h).1, ih (Digest.pair.inj h).2]

instance [Content α] : Content (List α) := ⟨digestList, digestList_injective⟩

end Content

import Mathlib.Data.List.Lex
import Mathlib.Order.Lattice
import Mathlib.Tactic.Common

/-!
# Paths and their joined texts

A path is a list of names, and its text joins them with a separator that no name contains. Two
orders compare paths: by the lists of names, and by the texts.

They agree unless one path `Crosses` another: it goes on below a name, the other has a longer name
there, and the letter that follows is below the separator. `joined_lt_of_lt` is the case of
agreement, `Crosses.lt` and `Crosses.joined_lt` the case of disagreement.
`pairwise_joined_lt_iff` says which sorted lists of paths have sorted texts.
-/

namespace JoinedPaths

open List

variable {α : Type} [LinearOrder α] (s : α)

def joined (path : List (List α)) : List α := [s].intercalate path

/-- The first path goes on below a name that begins a longer name of the second path, and the
letter that follows is below the separator. -/
def Crosses : List (List α) → List (List α) → Prop
  | name :: below, name' :: below' =>
    if name = name' then Crosses below below'
    else below ≠ [] ∧ name <+: name' ∧ ∃ c ∈ (name'.drop name.length).head?, c < s
  | _, _ => False

instance : (p q : List (List α)) → Decidable (Crosses s p q)
  | [], _ => .isFalse id
  | _ :: _, [] => .isFalse id
  | name :: below, name' :: below' => by
    unfold Crosses
    have := instDecidableCrosses below below'
    infer_instance

variable {s} {p q : List (List α)} {name name' : List α}

omit [LinearOrder α] in
theorem joined_singleton : joined s [name] = name := by
  simp [joined]

omit [LinearOrder α] in
theorem joined_cons (hp : p ≠ []) : joined s (name :: p) = name ++ s :: joined s p := by
  simp [joined, intercalate_cons_of_ne_nil hp]

theorem crosses_cons_self : Crosses s (name :: p) (name :: q) ↔ Crosses s p q := by
  rw [Crosses, if_pos rfl]

theorem crosses_cons (hne : name ≠ name') : Crosses s (name :: p) (name' :: q) ↔
    p ≠ [] ∧ ∃ c rest, name' = name ++ c :: rest ∧ c < s := by
  rw [Crosses, if_neg hne]
  constructor
  · rintro ⟨hp, ⟨tail, rfl⟩, c, hc, hlt⟩
    rw [drop_left] at hc
    cases tail with
    | nil => cases hc
    | cons c' rest =>
      cases hc
      exact ⟨hp, c, rest, rfl, hlt⟩
  · rintro ⟨hp, c, rest, rfl, hlt⟩
    refine ⟨hp, ⟨_, rfl⟩, c, ?_, hlt⟩
    rw [drop_left]
    rfl

/-- What it means that a path crosses another. -/
theorem crosses_iff : Crosses s p q ↔ ∃ dir name below c rest below', below ≠ [] ∧ c < s ∧
    p = dir ++ name :: below ∧ q = dir ++ (name ++ c :: rest) :: below' := by
  induction p generalizing q with
  | nil => simp [Crosses]
  | cons name p ih =>
    cases q with
    | nil => simp [Crosses]
    | cons name' q =>
      by_cases hname : name = name'
      · subst hname
        rw [crosses_cons_self, ih]
        constructor
        · rintro ⟨dir, n, below, c, rest, below', hbelow, hc, rfl, rfl⟩
          exact ⟨name :: dir, n, below, c, rest, below', hbelow, hc, rfl, rfl⟩
        · rintro ⟨dir, n, below, c, rest, below', hbelow, hc, hp, hq⟩
          cases dir with
          | nil =>
            simp only [nil_append, List.cons.injEq] at hp hq
            have hlength := congrArg List.length (hp.1.symm.trans hq.1)
            simp at hlength
          | cons d dir =>
            simp only [cons_append, List.cons.injEq] at hp hq
            exact ⟨dir, n, below, c, rest, below', hbelow, hc, hp.2, hq.2⟩
      · rw [crosses_cons hname]
        constructor
        · rintro ⟨hp, c, rest, rfl, hc⟩
          exact ⟨[], name, p, c, rest, q, hp, hc, rfl, rfl⟩
        · rintro ⟨dir, n, below, c, rest, below', hbelow, hc, hp, hq⟩
          cases dir with
          | nil =>
            simp only [nil_append, List.cons.injEq] at hp hq
            rcases hp with ⟨rfl, rfl⟩
            exact ⟨hbelow, c, rest, hq.1, hc⟩
          | cons d dir =>
            simp only [cons_append, List.cons.injEq] at hp hq
            exact absurd (hp.1.trans hq.1.symm) hname

omit [LinearOrder α] in
/-- A text has the letters of its names and the separator. -/
theorem mem_joined {c : α} (h : c ∈ joined s p) : c = s ∨ ∃ name ∈ p, c ∈ name := by
  induction p with
  | nil => cases h
  | cons name p ih =>
    by_cases hp : p = []
    · rw [hp, joined_singleton] at h
      exact Or.inr ⟨name, mem_cons_self, h⟩
    · rw [joined_cons hp, mem_append, mem_cons] at h
      rcases h with hname | hsep | hrest
      · exact Or.inr ⟨name, mem_cons_self, hname⟩
      · exact Or.inl hsep
      · exact (ih hrest).imp id fun ⟨n, hn, hc⟩ => ⟨n, mem_cons_of_mem _ hn, hc⟩

/-! ## The two orders -/

/-- The common beginning of two lists does not matter. -/
theorem append_lt_append_iff (l : List α) {a b : List α} : l ++ a < l ++ b ↔ a < b := by
  induction l with
  | nil => rfl
  | cons c l ih => simp [ih]

omit [LinearOrder α] in
/-- Either one list begins the other, or they differ in a letter. -/
theorem prefix_or_differ (a b : List α) : a <+: b ∨ b <+: a ∨
    ∃ l c d x y, c ≠ d ∧ a = l ++ c :: x ∧ b = l ++ d :: y := by
  induction a generalizing b with
  | nil => exact Or.inl (List.nil_prefix)
  | cons c a ih =>
    cases b with
    | nil => exact Or.inr (Or.inl nil_prefix)
    | cons d b =>
      by_cases hcd : c = d
      · subst hcd
        rcases ih b with hab | hba | ⟨l, c', d', x, y, hne, rfl, rfl⟩
        · exact Or.inl (prefix_cons_inj c |>.mpr hab)
        · exact Or.inr (Or.inl (prefix_cons_inj c |>.mpr hba))
        · exact Or.inr (Or.inr ⟨c :: l, c', d', x, y, hne, rfl, rfl⟩)
      · exact Or.inr (Or.inr ⟨[], c, d, a, b, hcd, rfl, rfl⟩)

/-- Lists that differ in a letter compare by it. -/
theorem differ_lt_iff {l x y : List α} {c d : α} (hne : c ≠ d) :
    l ++ c :: x < l ++ d :: y ↔ c < d := by
  rw [append_lt_append_iff, cons_lt_cons_iff]
  exact or_iff_left fun h => hne h.1

omit [LinearOrder α] in
/-- What is joined begins with the first name. -/
theorem joined_eq_append (name : List α) (p : List (List α)) :
    ∃ rest, joined s (name :: p) = name ++ rest := by
  by_cases hp : p = []
  · exact ⟨[], by rw [hp, joined_singleton, append_nil]⟩
  · exact ⟨_, joined_cons hp⟩

/-- Paths that do not cross are ordered like their texts. -/
theorem joined_lt_of_lt (hp : p ≠ []) (hsep : ∀ name ∈ q, s ∉ name) (hlt : p < q)
    (hcross : ¬ Crosses s p q) : joined s p < joined s q := by
  induction p generalizing q with
  | nil => exact absurd rfl hp
  | cons name p ih =>
    cases q with
    | nil => exact absurd hlt (not_lt_nil _)
    | cons name' q =>
      rcases cons_lt_cons_iff.mp hlt with hname | ⟨rfl, htail⟩
      · have hne : name ≠ name' := ne_of_lt hname
        rcases prefix_or_differ name name' with ⟨tail, rfl⟩ | ⟨tail, rfl⟩ |
          ⟨l, c, d, x, y, hcd, rfl, rfl⟩
        · -- the name goes on: compare the separator with its next letter
          rcases tail with _ | ⟨c, rest⟩
          · exact absurd (append_nil name).symm hne
          · rcases joined_eq_append (s := s) (name ++ c :: rest) q with ⟨more, hmore⟩
            rw [hmore, append_assoc]
            by_cases hbelow : p = []
            · rw [hbelow, joined_singleton]
              nth_rewrite 1 [← append_nil name]
              exact (append_lt_append_iff name).mpr (nil_lt_cons _ _)
            · rw [joined_cons hbelow]
              refine (append_lt_append_iff name).mpr (cons_lt_cons_iff.mpr (Or.inl ?_))
              have hletter : c ≠ s := by
                rintro rfl
                exact hsep _ mem_cons_self (by simp)
              refine lt_of_le_of_ne ?_ hletter.symm
              by_contra hc
              exact hcross ((crosses_cons hne).mpr ⟨hbelow, c, rest, rfl, not_le.mp hc⟩)
        · -- a longer name is not below its beginning
          refine absurd hname (not_lt.mpr ?_)
          rcases tail with _ | ⟨c, rest⟩
          · rw [append_nil]
          · nth_rewrite 1 [← append_nil name']
            exact le_of_lt ((append_lt_append_iff name').mpr (nil_lt_cons _ _))
        · rcases joined_eq_append (s := s) (l ++ c :: x) p with ⟨more, hmore⟩
          rcases joined_eq_append (s := s) (l ++ d :: y) q with ⟨more', hmore'⟩
          rw [hmore, hmore', append_assoc, append_assoc, cons_append,
            cons_append, differ_lt_iff hcd]
          exact (differ_lt_iff hcd).mp hname
      · rw [crosses_cons_self] at hcross
        have hq : q ≠ [] := by
          rintro rfl
          exact absurd htail (not_lt_nil _)
        rw [joined_cons hq]
        by_cases hbelow : p = []
        · rw [hbelow, joined_singleton]
          nth_rewrite 1 [← append_nil name]
          exact (append_lt_append_iff name).mpr (nil_lt_cons _ _)
        · rw [joined_cons hbelow, append_lt_append_iff, cons_lt_cons_iff]
          exact Or.inr ⟨rfl, ih hbelow (fun n hn => hsep n (mem_cons_of_mem _ hn)) htail
            hcross⟩

/-- A path that crosses another is before it. -/
theorem Crosses.lt (h : Crosses s p q) : p < q := by
  rcases crosses_iff.mp h with ⟨dir, name, below, c, rest, below', _, _, rfl, rfl⟩
  induction dir with
  | nil =>
    refine cons_lt_cons_iff.mpr (Or.inl ?_)
    nth_rewrite 1 [← append_nil name]
    exact (append_lt_append_iff name).mpr (nil_lt_cons _ _)
  | cons d dir ih => exact cons_lt_cons_iff.mpr (Or.inr ⟨rfl, ih (crosses_cons_self.mp h)⟩)

/-- Its text is behind the text of the other. -/
theorem Crosses.joined_lt (h : Crosses s p q) : joined s q < joined s p := by
  rcases crosses_iff.mp h with ⟨dir, name, below, c, rest, below', hbelow, hc, rfl, rfl⟩
  clear h
  induction dir with
  | nil =>
    rcases joined_eq_append (s := s) (name ++ c :: rest) below' with ⟨more, hmore⟩
    rw [nil_append, nil_append, hmore, joined_cons hbelow, append_assoc,
      append_lt_append_iff, cons_append, cons_lt_cons_iff]
    exact Or.inl hc
  | cons d dir ih =>
    rw [cons_append, cons_append, joined_cons (by simp), joined_cons (by simp),
      append_lt_append_iff, cons_lt_cons_iff]
    exact Or.inr ⟨rfl, ih⟩

/-- The texts of a sorted list of paths are sorted if no path crosses another. -/
theorem pairwise_joined_lt_iff {paths : List (List (List α))} (hsorted : paths.Pairwise (· < ·))
    (hnonempty : [] ∉ paths) (hsep : ∀ path ∈ paths, ∀ name ∈ path, s ∉ name) :
    (paths.map (joined s)).Pairwise (· < ·) ↔ ∀ p ∈ paths, ∀ q ∈ paths, ¬ Crosses s p q := by
  rw [pairwise_map]
  constructor
  · intro hjoined p hp q hq hcross
    rw [pairwise_iff_getElem] at hsorted hjoined
    rcases mem_iff_getElem.mp hp with ⟨i, hi, rfl⟩
    rcases mem_iff_getElem.mp hq with ⟨j, hj, rfl⟩
    rcases lt_trichotomy i j with hij | rfl | hji
    · exact lt_asymm hcross.joined_lt (hjoined i j hi hj hij)
    · exact lt_irrefl _ hcross.lt
    · exact lt_asymm hcross.lt (hsorted j i hj hi hji)
  · intro hall
    refine (hsorted.imp_of_mem ?_)
    intro p q hp hq hlt
    refine joined_lt_of_lt ?_ (hsep q hq) hlt (hall p hp q hq)
    rintro rfl
    exact hnonempty hp

end JoinedPaths

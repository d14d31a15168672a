import Mathlib.Data.List.Perm.Basic
import Mathlib.Data.List.Nodup

/-!
# Dictionaries

A Python `dict`: an association list in insertion order whose keys are
distinct. Assignment to a key that is present keeps its position, to a new key
appends.

The rules split the values of a dictionary into the value of one key and the
rest, `values_perm` before and `values_set_perm` after an assignment, so that
anything that is counted over the values can be updated at one key.
-/

/-- A dictionary with insertion order. -/
structure Dict (K V : Type) where
  entries : List (K × V)
  nodup : (entries.map Prod.fst).Nodup

namespace Dict

open List

variable {K V : Type}

def empty : Dict K V := ⟨[], nodup_nil⟩

def values (d : Dict K V) : List V := d.entries.map Prod.snd

/-- `len(d)`. -/
def size (d : Dict K V) : Nat := d.entries.length

@[simp] theorem length_values (d : Dict K V) : d.values.length = d.size := by
  simp [values, size]

@[simp] theorem values_empty : (empty : Dict K V).values = [] := rfl

theorem entries_nodup (d : Dict K V) : d.entries.Nodup := List.Nodup.of_map _ d.nodup

variable [DecidableEq K]

def get? (d : Dict K V) (key : K) : Option V :=
  (d.entries.find? fun entry => entry.1 = key).map Prod.snd

/-- `d.pop(key, None)`, without its result. -/
def erase (d : Dict K V) (key : K) : Dict K V where
  entries := d.entries.filter fun entry => entry.1 ≠ key
  nodup := d.nodup.sublist (List.Sublist.map _ filter_sublist)

/-- The entries after an assignment to a key that is present. -/
def replace (d : Dict K V) (key : K) (value : V) : List (K × V) :=
  d.entries.map fun entry => if entry.1 = key then (key, value) else entry

theorem map_fst_replace (d : Dict K V) (key : K) (value : V) :
    (d.replace key value).map Prod.fst = d.entries.map Prod.fst := by
  unfold replace
  rw [map_map]
  apply map_congr_left
  intro entry _
  by_cases h : entry.1 = key
  · simp [h]
  · simp [h]

def set (d : Dict K V) (key : K) (value : V) : Dict K V :=
  if h : key ∈ d.entries.map Prod.fst then
    ⟨d.replace key value, by rw [d.map_fst_replace]; exact d.nodup⟩
  else
    ⟨d.entries ++ [(key, value)], by
      rw [map_append]
      exact List.Nodup.append d.nodup (by simp) (by simpa using h)⟩

/-! ## Lookup -/

variable {d : Dict K V} {key : K} {value : V}

theorem mem_entries_iff : (key, value) ∈ d.entries ↔ d.get? key = some value := by
  unfold get?
  constructor
  · intro h
    cases hfind : d.entries.find? fun entry => decide (entry.1 = key) with
    | none =>
      have hnone := find?_eq_none.mp hfind (key, value) h
      simp at hnone
    | some entry =>
      have hmem := mem_of_find?_eq_some hfind
      have hkey : entry.1 = key := by simpa using find?_some hfind
      have heq : entry = (key, value) := inj_on_of_nodup_map d.nodup hmem h hkey
      rw [heq]
      rfl
  · intro h
    obtain ⟨entry, hfind, rfl⟩ := Option.map_eq_some_iff.mp h
    have hkey : entry.1 = key := by simpa using find?_some hfind
    rw [← hkey]
    exact mem_of_find?_eq_some hfind

theorem get?_eq_none_iff : d.get? key = none ↔ key ∉ d.entries.map Prod.fst := by
  constructor
  · intro h hmem
    obtain ⟨entry, hentry, rfl⟩ := mem_map.mp hmem
    have hget : d.get? entry.1 = some entry.2 := mem_entries_iff.mp hentry
    rw [h] at hget
    cases hget
  · intro h
    cases hget : d.get? key with
    | none => rfl
    | some value => exact absurd (mem_map_of_mem (f := Prod.fst) (mem_entries_iff.mpr hget)) h

/-- The values are those of some key. -/
theorem mem_values_iff : value ∈ d.values ↔ ∃ key, d.get? key = some value := by
  constructor
  · intro h
    obtain ⟨entry, hentry, rfl⟩ := mem_map.mp h
    exact ⟨entry.1, mem_entries_iff.mp hentry⟩
  · rintro ⟨key, h⟩
    exact mem_map_of_mem (f := Prod.snd) (mem_entries_iff.mpr h)

/-! ## Entries after an update -/

theorem mem_entries_erase {entry : K × V} :
    entry ∈ (d.erase key).entries ↔ entry ∈ d.entries ∧ entry.1 ≠ key := by
  simp [erase]

theorem mem_entries_set {entry : K × V} : entry ∈ (d.set key value).entries ↔
      entry = (key, value) ∨ (entry ∈ d.entries ∧ entry.1 ≠ key) := by
  unfold set
  split
  · rename_i hpresent
    obtain ⟨old, hold, hkey⟩ := mem_map.mp hpresent
    simp only [replace, mem_map]
    constructor
    · rintro ⟨entry', hentry', rfl⟩
      by_cases h : entry'.1 = key
      · rw [if_pos h]
        exact .inl rfl
      · rw [if_neg h]
        exact .inr ⟨hentry', h⟩
    · rintro (rfl | ⟨hentry, h⟩)
      · exact ⟨old, hold, if_pos hkey⟩
      · exact ⟨entry, hentry, if_neg h⟩
  · rename_i habsent
    simp only [mem_append, mem_singleton]
    constructor
    · rintro (h | h)
      · refine .inr ⟨h, fun hkey => habsent ?_⟩
        exact mem_map.mpr ⟨entry, h, hkey⟩
      · exact .inl h
    · rintro (h | h)
      · exact .inr h
      · exact .inl h.1

theorem get?_erase (d : Dict K V) (key key' : K) :
    (d.erase key).get? key' = if key' = key then none else d.get? key' := by
  by_cases h : key' = key
  · rw [if_pos h, Option.eq_none_iff_forall_ne_some]
    intro value hvalue
    rw [← mem_entries_iff, mem_entries_erase] at hvalue
    exact hvalue.2 h
  · rw [if_neg h]
    apply Option.ext
    intro value
    rw [← mem_entries_iff, ← mem_entries_iff, mem_entries_erase]
    simp [h]

theorem get?_set (d : Dict K V) (key : K) (value : V) (key' : K) :
    (d.set key value).get? key' = if key' = key then some value else d.get? key' := by
  by_cases h : key' = key
  · rw [if_pos h, ← mem_entries_iff, mem_entries_set, h]
    exact .inl rfl
  · rw [if_neg h]
    apply Option.ext
    intro value'
    rw [← mem_entries_iff, ← mem_entries_iff, mem_entries_set]
    simp [h]

/-! ## The same keys with other values -/

/-- `{key: f(value) for key, value in d.items()}`. -/
def mapValues {W : Type} (f : V → W) (d : Dict K V) : Dict K W where
  entries := d.entries.map fun entry => (entry.1, f entry.2)
  nodup := by
    rw [map_map]
    exact d.nodup

theorem get?_mapValues {W : Type} (f : V → W) (d : Dict K V) (key : K) :
    (d.mapValues f).get? key = (d.get? key).map f := by
  apply Option.ext
  intro value
  rw [← mem_entries_iff, Option.map_eq_some_iff]
  constructor
  · intro hentry
    rcases mem_map.mp hentry with ⟨⟨k, v⟩, hold, heq⟩
    cases heq
    exact ⟨v, mem_entries_iff.mp hold, rfl⟩
  · rintro ⟨v, hget, rfl⟩
    exact mem_map.mpr ⟨(key, v), mem_entries_iff.mpr hget, rfl⟩

/-! ## Splitting the values at a key -/

theorem nodup_cons_erase (d : Dict K V) (key : K) (value : V) :
    ((key, value) :: (d.erase key).entries).Nodup := by
  refine nodup_cons.mpr ⟨fun h => ?_, (d.erase key).entries_nodup⟩
  exact (mem_entries_erase.mp h).2 rfl

/-- The values are the value of a key and the rest. -/
theorem values_perm (h : d.get? key = some value) :
    d.values.Perm (value :: (d.erase key).values) := by
  have hmem := mem_entries_iff.mpr h
  have hperm : d.entries.Perm ((key, value) :: (d.erase key).entries) := by
    rw [perm_ext_iff_of_nodup d.entries_nodup (d.nodup_cons_erase key value)]
    intro entry
    rw [mem_cons, mem_entries_erase]
    constructor
    · intro hentry
      by_cases hkey : entry.1 = key
      · exact .inl (inj_on_of_nodup_map d.nodup hentry hmem hkey)
      · exact .inr ⟨hentry, hkey⟩
    · rintro (rfl | hentry)
      · exact hmem
      · exact hentry.1
  exact hperm.map Prod.snd

/-- After an assignment the values of the other keys are the same. -/
theorem values_set_perm (d : Dict K V) (key : K) (value : V) :
    (d.set key value).values.Perm (value :: (d.erase key).values) := by
  have hperm : (d.set key value).entries.Perm ((key, value) :: (d.erase key).entries) := by
    rw [perm_ext_iff_of_nodup (d.set key value).entries_nodup (d.nodup_cons_erase key value)]
    intro entry
    rw [mem_cons, mem_entries_erase, mem_entries_set]
  exact hperm.map Prod.snd

/-- Nothing is removed at a key that is absent. -/
theorem values_erase_of_none (h : d.get? key = none) : (d.erase key).values = d.values := by
  have hsame : (d.erase key).entries = d.entries := by
    refine filter_eq_self.mpr fun entry hentry => ?_
    rw [get?_eq_none_iff] at h
    simpa using fun hkey => h (mem_map.mpr ⟨entry, hentry, hkey⟩)
  simp [values, hsame]

/-! ## Counting values -/

/-- A count over the values splits at a key. -/
theorem countP_values (h : d.get? key = some value) (p : V → Bool) :
    d.values.countP p = (d.erase key).values.countP p + if p value = true then 1 else 0 := by
  rw [(values_perm h).countP_eq, countP_cons]

theorem countP_values_set (d : Dict K V) (key : K) (value : V) (p : V → Bool) :
    (d.set key value).values.countP p =
      (d.erase key).values.countP p + if p value = true then 1 else 0 := by
  rw [(d.values_set_perm key value).countP_eq, countP_cons]

theorem size_erase (h : d.get? key = some value) : d.size = (d.erase key).size + 1 := by
  have hlength := (values_perm h).length_eq
  simpa using hlength

theorem size_set (d : Dict K V) (key : K) (value : V) :
    (d.set key value).size = (d.erase key).size + 1 := by
  have hlength := (d.values_set_perm key value).length_eq
  simpa using hlength

theorem size_erase_of_none (h : d.get? key = none) : (d.erase key).size = d.size := by
  rw [← length_values, values_erase_of_none h, length_values]

/-! ## Every value -/

theorem forall_values_erase {P : V → Prop} (h : ∀ value ∈ d.values, P value) (key : K) :
    ∀ value ∈ (d.erase key).values, P value := by
  intro value hvalue
  obtain ⟨entry, hentry, rfl⟩ := mem_map.mp hvalue
  exact h _ (mem_map_of_mem (mem_entries_erase.mp hentry).1)

/-- A property of every value holds after an assignment if it holds of the new
value. -/
theorem forall_values_set {P : V → Prop} (h : ∀ value ∈ d.values, P value) (hvalue : P value) :
    ∀ v ∈ (d.set key value).values, P v := by
  intro v hv
  rcases mem_cons.mp ((d.values_set_perm key value).subset hv) with rfl | hrest
  · exact hvalue
  · exact forall_values_erase h key v hrest

/-! ## Collecting values under a key of their own -/

/-- `{key(value): value for value in values}`, added to a dictionary. -/
theorem get?_foldl_set (key : V → K) (values : List V) (d : Dict K V) (k : K) :
    (values.foldl (fun d value => d.set (key value) value) d).get? k
      = ((values.filter fun value => key value = k).getLast?).or (d.get? k) := by
  induction values generalizing d with
  | nil => simp
  | cons value values ih =>
    rw [foldl_cons, ih, get?_set]
    by_cases h : key value = k
    · rw [filter_cons_of_pos (by simpa using h), getLast?_cons, if_pos h.symm]
      cases (values.filter fun value => decide (key value = k)).getLast? <;> rfl
    · rw [filter_cons_of_neg (by simpa using h), if_neg (Ne.symm h)]

/-- A dictionary updated with values of distinct keys: each of them is under its
key, and nothing else has changed. -/
theorem get?_foldl_set_eq_some {key : V → K} {values : List V} (hnd : (values.map key).Nodup)
    (d : Dict K V) {k : K} {v : V} :
    (values.foldl (fun d value => d.set (key value) value) d).get? k = some v ↔
      (v ∈ values ∧ key v = k) ∨ (k ∉ values.map key ∧ d.get? k = some v) := by
  rw [get?_foldl_set]
  cases h : (values.filter fun value => decide (key value = k)).getLast? with
  | none =>
    rw [getLast?_eq_none_iff, filter_eq_nil_iff] at h
    have hfree : k ∉ values.map key := by
      intro hmem
      obtain ⟨value, hvalue, hk⟩ := mem_map.mp hmem
      exact h value hvalue (decide_eq_true hk)
    rw [Option.none_or]
    constructor
    · exact fun hget => .inr ⟨hfree, hget⟩
    · rintro (⟨hv, hk⟩ | ⟨-, hget⟩)
      · exact absurd (decide_eq_true hk) (h v hv)
      · exact hget
  | some w =>
    obtain ⟨hw, hk⟩ := mem_filter.mp (mem_of_getLast? h)
    rw [decide_eq_true_eq] at hk
    rw [Option.some_or, Option.some.injEq]
    constructor
    · rintro rfl
      exact .inl ⟨hw, hk⟩
    · rintro (⟨hv, hkv⟩ | ⟨hfree, -⟩)
      · exact inj_on_of_nodup_map hnd hw hv (hk.trans hkv.symm)
      · exact absurd (mem_map.mpr ⟨w, hw, hk⟩) hfree

/-- A dictionary whose values are filed under a key of their own is collected
from its values. -/
theorem get?_collect_values (d : Dict K V) {key : V → K}
    (hkey : ∀ k value, d.get? k = some value → key value = k) (k : K) :
    (d.values.foldl (fun d value => d.set (key value) value) empty).get? k = d.get? k := by
  have hempty : (empty : Dict K V).get? k = none := rfl
  rw [get?_foldl_set, hempty, Option.or_none]
  have hmem : ∀ value, value ∈ (d.values.filter fun value => decide (key value = k)) ↔
      d.get? k = some value := by
    intro value
    rw [mem_filter, mem_values_iff, decide_eq_true_eq]
    constructor
    · rintro ⟨⟨k', hk'⟩, hk⟩
      rw [← hk, hkey k' value hk', hk']
    · intro h
      exact ⟨⟨k, h⟩, hkey k value h⟩
  cases h : (d.values.filter fun value => decide (key value = k)).getLast? with
  | none =>
    rw [getLast?_eq_none_iff] at h
    cases hget : d.get? k with
    | none => rfl
    | some value => exact absurd ((hmem value).mpr hget) (by simp [h])
  | some value => exact ((hmem value).mp (mem_of_getLast? h)).symm

end Dict

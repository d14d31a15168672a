import Mathlib.Data.List.Basic

/-!
# Append-only logs

A log is a list that only grows at its end. Two things are read from one: a
property of each entry given the entries before it (`EachAfter`), and what the
log says about a key (`written`, `latest`), where `entry` tells which key an
entry writes and what.

The rules are about the log after one more entry, so an invariant of a log is
proved by one case for each kind of entry.
-/

namespace Log

variable {α κ β : Type*}

/-- Each entry satisfies `P` with the entries before it. -/
def EachAfter (P : List α → α → Prop) (log : List α) : Prop :=
  ∀ past e rest, log = past ++ e :: rest → P past e

variable {log : List α} {P : List α → α → Prop}

theorem eachAfter_nil : EachAfter P [] := by
  intro past e rest h
  simp at h

theorem eachAfter_snoc {e : α} : EachAfter P (log ++ [e]) ↔ EachAfter P log ∧ P log e := by
  constructor
  · intro h
    refine ⟨fun past e' rest hlog => ?_, h log e [] rfl⟩
    exact h past e' (rest ++ [e]) (by rw [hlog]; simp)
  · rintro ⟨h, he⟩ past e' rest hlog
    rcases List.eq_nil_or_concat rest with rfl | ⟨rest, last, rfl⟩
    · obtain ⟨rfl, hlast⟩ := List.append_inj' hlog rfl
      rw [← (List.cons.inj hlast).1]
      exact he
    · have hsplit : log ++ [e] = (past ++ e' :: rest) ++ [last] := by rw [hlog]; simp
      obtain ⟨hlog, -⟩ := List.append_inj' hsplit rfl
      exact h past e' rest hlog

/-- Entries that satisfy `P` after anything. -/
theorem EachAfter.append {more : List α} (h : EachAfter P log)
    (hmore : ∀ e ∈ more, ∀ past, P past e) : EachAfter P (log ++ more) := by
  induction more generalizing log with
  | nil => simpa using h
  | cons e more ih =>
    rw [List.append_cons]
    exact ih (eachAfter_snoc.mpr ⟨h, hmore e (by simp) log⟩) fun e' he' => hmore e' (by simp [he'])

/-- As many values as entries, when each entry has one. -/
theorem length_filterMap_of_isSome {f : α → Option β} {values : List α}
    (h : ∀ a ∈ values, (f a).isSome = true) : (values.filterMap f).length = values.length := by
  induction values with
  | nil => rfl
  | cons a values ih =>
    obtain ⟨b, hb⟩ := Option.isSome_iff_exists.mp (h a (by simp))
    rw [List.filterMap_cons_some hb, List.length_cons, List.length_cons,
      ih fun a ha => h a (by simp [ha])]

variable [DecidableEq κ] {entry : α → Option (κ × β)}

/-- What the entries write under a key, oldest first. -/
def written (entry : α → Option (κ × β)) (log : List α) (key : κ) : List β :=
  log.filterMap fun e => (entry e).bind fun row => if row.1 = key then some row.2 else none

/-- What was written last under a key. -/
def latest (entry : α → Option (κ × β)) (log : List α) (key : κ) : Option β :=
  (written entry log key).getLast?

@[simp] theorem written_nil (key : κ) : written entry [] key = [] := rfl

theorem written_append (log more : List α) (key : κ) :
    written entry (log ++ more) key = written entry log key ++ written entry more key :=
  List.filterMap_append

/-- An entry that writes nothing. -/
theorem written_snoc_of_none {e : α} (h : entry e = none) (key : κ) :
    written entry (log ++ [e]) key = written entry log key := by
  rw [written_append]
  simp [written, h]

/-- An entry that writes a value under its key. -/
theorem written_snoc_of_some {e : α} {k : κ} {v : β} (h : entry e = some (k, v)) (key : κ) :
    written entry (log ++ [e]) key =
      if k = key then written entry log key ++ [v] else written entry log key := by
  rw [written_append]
  by_cases hk : k = key
  · simp [written, h, hk]
  · simp [written, h, hk]

theorem mem_written {key : κ} {v : β} :
    v ∈ written entry log key ↔ ∃ e ∈ log, entry e = some (key, v) := by
  unfold written
  rw [List.mem_filterMap]
  constructor
  · rintro ⟨e, he, hv⟩
    obtain ⟨⟨k, w⟩, hentry, hw⟩ := Option.bind_eq_some_iff.mp hv
    by_cases hk : k = key
    · rw [if_pos hk] at hw
      refine ⟨e, he, ?_⟩
      rw [hentry, hk]
      exact congrArg (fun v => some (key, v)) (Option.some.inj hw)
    · rw [if_neg hk] at hw
      cases hw
  · rintro ⟨e, he, hentry⟩
    exact ⟨e, he, by rw [hentry]; simp⟩

theorem latest_snoc_of_none {e : α} (h : entry e = none) (key : κ) :
    latest entry (log ++ [e]) key = latest entry log key := by
  unfold latest
  rw [written_snoc_of_none h]

theorem latest_snoc_of_some {e : α} {k : κ} {v : β} (h : entry e = some (k, v)) (key : κ) :
    latest entry (log ++ [e]) key = if k = key then some v else latest entry log key := by
  unfold latest
  rw [written_snoc_of_some h]
  split
  · simp
  · rfl

end Log

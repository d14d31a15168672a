import Mathlib.Data.List.Lex
import Mathlib.Data.List.Infix
import LightConeSpec.Lib.Dict
import LightConeSpec.Lib.Python

/-!
# Names of evidence files

The files of one attempt share a stem, `{run_id}.rank{rank}.pid{pid}.attempt{id}`,
and differ in what follows it. WAL segments are numbered with eight digits, and a
final shard is rebuilt from the segments that a glob finds, sorted by name.

`segments_eq` says that this is the order in which they were written, for fewer
than `10 ^ 8` segments.
-/

namespace Telemetry

open Python List Nat

/-! ## Tables and suffixes -/

/-- The values of `_TABLE`. -/
inductive Table
  | run
  | request
  | round
  | update
  | performance
deriving DecidableEq

def Table.name : Table → String
  | .run => "run"
  | .request => "request"
  | .round => "round"
  | .update => "update"
  | .performance => "performance"

/-- `_TABLE.values()`. -/
def Table.all : List Table := [.run, .request, .round, .update, .performance]

instance decidableTables (P : Table → Prop) [DecidablePred P] : Decidable (∀ table, P table) :=
  decidable_of_iff (∀ table ∈ Table.all, P table)
    ⟨fun h table => h table (by cases table <;> decide), fun h table _ => h table⟩

/-- The last digits of a number. -/
def digits : ℕ → ℕ → List Char
  | 0, _ => []
  | width + 1, n => digits width (n / 10) ++ [Nat.digitChar (n % 10)]

/-- `{sequence:08d}`. -/
def sequenceText (sequence : ℕ) : String :=
  if sequence < 10 ^ 8 then String.ofList (digits 8 sequence) else toString sequence

/-- What follows the stem in the name of a file of an attempt. -/
inductive Suffix
  | checkpoint
  | index
  | nativeTerminal
  | aborted
  | wal (table : Table) (sequence : ℕ)
  | shard (table : Table)

def Suffix.text : Suffix → String
  | .checkpoint => "checkpoint.json"
  | .index => "index.sqlite3"
  | .nativeTerminal => "native-terminal.json"
  | .aborted => "aborted.json"
  | .wal table sequence => table.name ++ ".wal." ++ sequenceText sequence ++ ".parquet"
  | .shard table => table.name ++ ".parquet"

def fileName (stem : String) (suffix : Suffix) : String := stem ++ "." ++ suffix.text

def runStem (runId : String) (rank : ℕ) : String := runId ++ ".rank" ++ toString rank

/-- `_SAFE_COMPONENT.fullmatch`. -/
def isSafeComponent (value : String) : Bool :=
  match value.toList with
  | [] => false
  | first :: rest => isLetterOrDigit first && rest.all fun c => isLetterOrDigit c || c ∈ ['.', '_', '-']
where
  isLetterOrDigit (c : Char) : Bool :=
    ('A' ≤ c && c ≤ 'Z') || ('a' ≤ c && c ≤ 'z') || ('0' ≤ c && c ≤ '9')

/-! ## Globs -/

/-- The name matches the pattern `{first}*{last}`. -/
def Matches (first last name : String) : Prop :=
  ∃ middle : List Char, name.toList = first.toList ++ middle ++ last.toList

theorem matches_iff {first last name : String} : Matches first last name ↔
    first.toList <+: name.toList ∧ last.toList <:+ name.toList ∧
      first.toList.length + last.toList.length ≤ name.toList.length := by
  constructor
  · rintro ⟨middle, hname⟩
    rw [hname]
    refine ⟨⟨middle ++ last.toList, by rw [append_assoc]⟩, suffix_append _ _, ?_⟩
    simp only [length_append]
    omega
  · rintro ⟨⟨rest, hrest⟩, hlast, hlength⟩
    rw [← hrest] at hlast hlength
    rw [length_append] at hlength
    have hsuffix : last.toList <:+ rest :=
      suffix_of_suffix_length_le hlast (suffix_append _ _) (by omega)
    obtain ⟨middle, hmiddle⟩ := hsuffix
    exact ⟨middle, by rw [← hrest, ← hmiddle, append_assoc]⟩

instance {first last name : String} : Decidable (Matches first last name) :=
  decidable_of_iff _ matches_iff.symm

/-- The names of a directory that match `{first}*{last}`. -/
def glob {V : Type} (directory : Dict String V) (first last : String) : List String :=
  (directory.entries.map Prod.fst).filter fun name => Matches first last name

theorem mem_glob {V : Type} {directory : Dict String V} {first last name : String} :
    name ∈ glob directory first last ↔
      (∃ file, directory.get? name = some file) ∧ Matches first last name := by
  unfold glob
  rw [mem_filter, decide_eq_true_iff]
  refine and_congr_left fun _ => ?_
  constructor
  · intro h
    obtain ⟨⟨name', file⟩, hmem, rfl⟩ := mem_map.mp h
    exact ⟨file, Dict.mem_entries_iff.mp hmem⟩
  · rintro ⟨file, h⟩
    exact mem_map.mpr ⟨(name, file), Dict.mem_entries_iff.mpr h, rfl⟩

theorem nodup_glob {V : Type} (directory : Dict String V) (first last : String) :
    (glob directory first last).Nodup :=
  directory.nodup.filter _

/-! ## Sequence numbers -/

theorem length_digits (width n : ℕ) : (digits width n).length = width := by
  induction width generalizing n with
  | zero => rfl
  | succ width ih =>
    rw [digits, length_append, ih]
    rfl

variable {n : ℕ} {table : Table} {suffix : Suffix} {stem : String}

theorem digitChar_lt {m : ℕ} (h : m < n) (hn : n < 10) : Nat.digitChar m < Nat.digitChar n := by
  have hm : (Nat.digitChar m).toNat = 48 + m := toNat_digitChar_of_lt_ten (by omega)
  have hn' : (Nat.digitChar n).toNat = 48 + n := toNat_digitChar_of_lt_ten hn
  have hlt : (Nat.digitChar m).toNat < (Nat.digitChar n).toNat := by omega
  exact hlt

/-- Lists of one length are ordered by what comes first. -/
theorem append_lt_append {a b x y : List Char} (hlength : a.length = b.length) (h : a < b) :
    a ++ x < b ++ y := by
  induction a generalizing b with
  | nil =>
    rw [length_nil] at hlength
    rw [length_eq_zero_iff.mp hlength.symm] at h
    exact absurd h (lt_irrefl _)
  | cons c a ih =>
    cases b with
    | nil => cases hlength
    | cons d b =>
      rw [cons_append, cons_append]
      rcases cons_lt_cons_iff.mp h with hlt | ⟨rfl, hlt⟩
      · exact cons_lt_cons_iff.mpr (.inl hlt)
      · exact cons_lt_cons_iff.mpr (.inr ⟨rfl, ih (by simpa using hlength) hlt⟩)

theorem digits_lt {width m : ℕ} (h : m < n) (hn : n < 10 ^ width) :
    digits width m < digits width n := by
  induction width generalizing m n with
  | zero => omega
  | succ width ih =>
    have hdiv : n / 10 < 10 ^ width := by
      rw [pow_succ] at hn
      omega
    rw [digits, digits]
    rcases lt_or_ge (m / 10) (n / 10) with hlt | hge
    · exact append_lt_append (by rw [length_digits, length_digits]) (ih hlt hdiv)
    · -- the numbers differ in their last digit
      have heq : m / 10 = n / 10 := by omega
      have hlast : m % 10 < n % 10 := by omega
      rw [heq]
      refine append_left_lt (cons_lt_cons_iff.mpr (.inl ?_))
      exact digitChar_lt hlast (mod_lt _ (by decide))

theorem toList_sequenceText : (sequenceText n).toList =
    if n < 10 ^ 8 then digits 8 n else Nat.toDigits 10 n := by
  unfold sequenceText
  split
  · rw [String.toList_ofList]
  · exact toList_repr

theorem sequenceText_lt {m : ℕ} (h : m < n) (hn : n < 10 ^ 8) :
    (sequenceText m).toList < (sequenceText n).toList := by
  rw [toList_sequenceText, toList_sequenceText, if_pos hn, if_pos (by omega)]
  exact digits_lt h hn

theorem sequenceText_injective : Function.Injective sequenceText := by
  have hlong : ∀ n, ¬ n < 10 ^ 8 → 8 < (Nat.toDigits 10 n).length := by
    intro n hn
    by_contra hle
    exact hn ((length_toDigits_le_iff (by decide) (by decide)).mp (by omega))
  intro m n h
  have hlist := congrArg String.toList h
  have hlength := congrArg List.length hlist
  rw [toList_sequenceText, toList_sequenceText] at hlist hlength
  by_cases hm : m < 10 ^ 8
  · by_cases hn : n < 10 ^ 8
    · rcases lt_trichotomy m n with hlt | heq | hgt
      · rw [if_pos hm, if_pos hn] at hlist
        exact absurd hlist (digits_lt hlt hn).ne
      · exact heq
      · rw [if_pos hm, if_pos hn] at hlist
        exact absurd hlist.symm (digits_lt hgt hm).ne
    · rw [if_pos hm, if_neg hn, length_digits] at hlength
      have := hlong n hn
      omega
  · by_cases hn : n < 10 ^ 8
    · rw [if_neg hm, if_pos hn, length_digits] at hlength
      have := hlong m hm
      omega
    · rw [if_neg hm, if_neg hn] at hlist
      rw [← ofDigitChars_ten_toDigits (n := m), hlist, ofDigitChars_ten_toDigits]

/-! ## The names of one run and rank -/

theorem toList_runStem (runId : String) (rank : ℕ) :
    (runStem runId rank).toList = runId.toList ++ (".rank".toList ++ Nat.toDigits 10 rank) := by
  unfold runStem
  rw [String.toList_append, String.toList_append, append_assoc]
  congr 2
  exact toList_repr

/-- No character of a rank is a letter or a dot. -/
theorem not_mem_toDigits {c : Char} (hc : c.isDigit = false) (n : ℕ) : c ∉ Nat.toDigits 10 n := by
  intro hmem
  have := isDigit_of_mem_toDigits (by decide) (by decide) hmem
  rw [hc] at this
  cases this

/-- The rank is what follows the last dot. -/
theorem eq_of_rank_append {x : List Char} {rank rank' : ℕ}
    (h : ".rank".toList ++ Nat.toDigits 10 rank = x ++ (".rank".toList ++ Nat.toDigits 10 rank')) :
    x = [] ∧ rank = rank' := by
  have hzero : ∀ n, (Nat.toDigits 10 n).count '.' = 0 := fun n =>
    count_eq_zero.mpr (not_mem_toDigits (by decide) n)
  have hcount := congrArg (List.count '.') h
  rw [count_append, count_append, count_append, hzero, hzero] at hcount
  have hx : x = [] := by
    cases x with
    | nil => rfl
    | cons c rest =>
      -- the first character of `x` is a dot, and so there would be two
      have hc : '.' = c := (List.cons.inj h).1
      subst hc
      rw [count_cons_self] at hcount
      omega
  subst hx
  refine ⟨rfl, ?_⟩
  have hdigits := append_cancel_left
    (show ".rank".toList ++ _ = ".rank".toList ++ _ from h)
  rw [← ofDigitChars_ten_toDigits (n := rank), hdigits, ofDigitChars_ten_toDigits]

theorem runStem_injective {runId runId' : String} {rank rank' : ℕ}
    (h : runStem runId rank = runStem runId' rank') : runId = runId' ∧ rank = rank' := by
  have hlist := congrArg String.toList h
  rw [toList_runStem, toList_runStem] at hlist
  rcases append_eq_append_iff.mp hlist with ⟨x, hx, hrest⟩ | ⟨x, hx, hrest⟩
  · rcases eq_of_rank_append hrest with ⟨rfl, hrank⟩
    rw [append_nil] at hx
    exact ⟨(String.toList_injective hx).symm, hrank⟩
  · rcases eq_of_rank_append hrest with ⟨rfl, hrank⟩
    rw [append_nil] at hx
    exact ⟨String.toList_injective hx, hrank.symm⟩

/-- A name that begins with `{run_id}.rank{rank}.pid` and goes on after a stem begins so
with the run id of the stem: no rank has a letter. -/
theorem pid_isPrefix_iff {runId runId' : String} {rank : ℕ} (rank' : ℕ) :
    (runStem runId rank ++ ".pid").toList <+: (runStem runId' rank').toList ↔
      (runStem runId rank ++ ".pid").toList <+: runId'.toList := by
  constructor
  · rintro ⟨rest, hrest⟩
    rw [toList_runStem runId' rank'] at hrest
    rcases append_eq_append_iff.mp hrest with ⟨x, hx, -⟩ | ⟨x, hx, htail⟩
    · exact ⟨x, hx.symm⟩
    · -- the last letter of `.pid` would be in `.rank{rank}`
      rcases eq_nil_or_concat x with rfl | ⟨front, c, rfl⟩
      · rw [append_nil] at hx
        rw [hx]
      · have hlast := congrArg List.getLast? hx
        rw [String.toList_append, getLast?_append, concat_eq_append,
          ← append_assoc, getLast?_concat] at hlast
        have hc : 'd' = c := by simpa using hlast
        have hmem : 'd' ∈ ".rank".toList ++ Nat.toDigits 10 rank' := by
          rw [htail, concat_eq_append, hc]
          simp
        rcases mem_append.mp hmem with hmem | hmem
        · exact absurd hmem (by decide)
        · exact absurd hmem (not_mem_toDigits (by decide) rank')
  · intro h
    rw [toList_runStem runId' rank']
    exact h.trans (prefix_append _ _)

/-! ## The names of one attempt -/

/-- The text of a segment starts with its own table only. -/
theorem text_of_segment {rest : List Char}
    (h : suffix.text.toList = table.name.toList ++ ".wal.".toList ++ rest) :
    ∃ sequence, suffix = .wal table sequence ∧
      rest = (sequenceText sequence).toList ++ ".parquet".toList := by
  cases suffix with
  | checkpoint => cases table <;> simp [Suffix.text, Table.name] at h
  | index => cases table <;> simp [Suffix.text, Table.name] at h
  | nativeTerminal => cases table <;> simp [Suffix.text, Table.name] at h
  | aborted => cases table <;> simp [Suffix.text, Table.name] at h
  | shard table' => cases table <;> cases table' <;> simp [Suffix.text, Table.name] at h
  | wal table' sequence =>
    have htable : table' = table := by
      cases table <;> cases table' <;> first | rfl | simp [Suffix.text, Table.name] at h
    subst htable
    refine ⟨sequence, rfl, ?_⟩
    simpa [Suffix.text, append_assoc] using h.symm

theorem eq_of_segment {sequence : ℕ} (h : suffix.text = (Suffix.wal table sequence).text) :
    suffix = .wal table sequence := by
  have htext : suffix.text.toList = table.name.toList ++ ".wal.".toList
      ++ ((sequenceText sequence).toList ++ ".parquet".toList) := by
    rw [h]
    simp [Suffix.text, append_assoc]
  rcases text_of_segment htext with ⟨sequence', rfl, hrest⟩
  have hsequence := append_cancel_right hrest
  rw [sequenceText_injective (String.toList_injective hsequence)]

theorem text_injective : Function.Injective Suffix.text := by
  intro s s' h
  cases s with
  | wal table sequence => exact (eq_of_segment h.symm).symm
  | shard table =>
    cases s' with
    | wal table' sequence' => exact eq_of_segment h
    | shard table' =>
      cases table <;> cases table' <;> first | rfl | exact absurd h (by decide)
    | _ => cases table <;> exact absurd h (by decide)
  | _ =>
    cases s' with
    | wal table' sequence' => exact eq_of_segment h
    | shard table' => cases table' <;> exact absurd h (by decide)
    | _ => first | rfl | exact absurd h (by decide)

theorem toList_fileName (stem : String) (suffix : Suffix) :
    (fileName stem suffix).toList = (stem.toList ++ ".".toList) ++ suffix.text.toList := by
  unfold fileName
  rw [String.toList_append, String.toList_append]

theorem fileName_injective (stem : String) : Function.Injective (fileName stem) := by
  intro s s' h
  have hlist := congrArg String.toList h
  rw [toList_fileName, toList_fileName] at hlist
  exact text_injective (String.toList_injective (append_cancel_left hlist))

/-- The first part of the pattern of the segments of a table. -/
def segmentStart (stem : String) (table : Table) : String := stem ++ "." ++ table.name ++ ".wal."

/-- The segments of a table, of the files of the attempt. -/
theorem matches_segment : Matches (segmentStart stem table) ".parquet" (fileName stem suffix) ↔
      ∃ sequence, suffix = .wal table sequence := by
  constructor
  · rintro ⟨middle, hname⟩
    rw [toList_fileName] at hname
    have htext : suffix.text.toList
        = table.name.toList ++ ".wal.".toList ++ (middle ++ ".parquet".toList) := by
      refine append_cancel_left (hname.trans ?_)
      simp [segmentStart, append_assoc]
    rcases text_of_segment htext with ⟨sequence, rfl, -⟩
    exact ⟨sequence, rfl⟩
  · rintro ⟨sequence, rfl⟩
    refine ⟨(sequenceText sequence).toList, ?_⟩
    rw [toList_fileName]
    simp [segmentStart, Suffix.text, append_assoc]

theorem segment_lt {m : ℕ} (h : m < n) (hn : n < 10 ^ 8) :
    fileName stem (.wal table m) < fileName stem (.wal table n) := by
  rw [String.lt_iff_toList_lt, toList_fileName, toList_fileName]
  refine append_left_lt ?_
  have htext : ∀ k, (Suffix.wal table k).text.toList = (table.name.toList ++ ".wal.".toList)
      ++ ((sequenceText k).toList ++ ".parquet".toList) := by
    intro k
    simp [Suffix.text, append_assoc]
  rw [htext, htext]
  refine append_left_lt (append_lt_append ?_ (sequenceText_lt h hn))
  rw [toList_sequenceText, toList_sequenceText, if_pos hn, if_pos (by omega), length_digits,
    length_digits]

/-- Sorted by name, the segments stand in the order in which they were written. -/
theorem segments_eq {V : Type} {directory : Dict String V} (hn : n ≤ 10 ^ 8)
    (h : ∀ name, name ∈ glob directory (segmentStart stem table) ".parquet" ↔
      ∃ k < n, name = fileName stem (.wal table k)) :
    sortedBy id (glob directory (segmentStart stem table) ".parquet")
      = (List.range n).map fun k => fileName stem (.wal table k) := by
  have hsorted : ((List.range n).map fun k => fileName stem (.wal table k)).Pairwise (· < ·) := by
    rw [pairwise_map]
    refine pairwise_lt_range.imp_of_mem ?_
    intro i j _ hj hij
    have hlt := mem_range.mp hj
    exact segment_lt hij (by omega)
  have hperm : (sortedBy id (glob directory (segmentStart stem table) ".parquet")).Perm
      ((List.range n).map fun k => fileName stem (.wal table k)) := by
    refine (sortedBy_perm id _).trans ?_
    rw [perm_ext_iff_of_nodup (nodup_glob _ _ _) (hsorted.imp fun hlt => hlt.ne)]
    intro name
    rw [h name, mem_map]
    constructor
    · rintro ⟨k, hk, rfl⟩
      exact ⟨k, mem_range.mpr hk, rfl⟩
    · rintro ⟨k, hk, rfl⟩
      exact ⟨k, mem_range.mp hk, rfl⟩
  refine hperm.eq_of_pairwise ?_ (sortedBy_pairwise id _) (hsorted.imp fun hlt => hlt.le)
  intro a b _ _ hab hba
  exact le_antisymm hab hba

end Telemetry

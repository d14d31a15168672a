import Mathlib.Data.List.Sort
import Mathlib.Data.List.Dedup
import Mathlib.Data.String.Basic

/-!
# Python values

The few pieces of the Python runtime that every model below reads: raised
exceptions, the text predicates used by the `__post_init__` validators, and
`sorted(set(..))`. Nothing here names a class of the modelled program.

`insertionSort` stands for `sorted` (both are stable, so they agree); it is
structurally recursive, which lets closed terms be evaluated by the kernel.
-/

namespace Python

open List

/-- The exception classes that the modelled code raises or catches. The last
two derive from `BaseException` only, so `except Exception` lets them pass. -/
inductive ErrorKind
  | valueError
  | typeError
  | keyError
  | indexError
  | runtimeError
  | assertionError
  | osError
  | attributeError
  | integrityError
  | programmingError
  | memoryError
  | stopIteration
  | operatorError
  | attemptTransitionError
  | executionBundleBlockedError
  | dispatchOutcomeUnknownError
  | capabilityRejectionError
  | keyboardInterrupt
  | systemExit
deriving DecidableEq

/-- `type(error).__name__`. -/
def ErrorKind.name : ErrorKind → String
  | .valueError => "ValueError"
  | .typeError => "TypeError"
  | .keyError => "KeyError"
  | .indexError => "IndexError"
  | .runtimeError => "RuntimeError"
  | .assertionError => "AssertionError"
  | .osError => "OSError"
  | .attributeError => "AttributeError"
  | .integrityError => "IntegrityError"
  | .programmingError => "ProgrammingError"
  | .memoryError => "MemoryError"
  | .stopIteration => "StopIteration"
  | .operatorError => "ExperimentOperatorError"
  | .attemptTransitionError => "AttemptTransitionError"
  | .executionBundleBlockedError => "ExecutionBundleBlockedError"
  | .dispatchOutcomeUnknownError => "_DispatchOutcomeUnknownError"
  | .capabilityRejectionError => "CapabilityRejectionError"
  | .keyboardInterrupt => "KeyboardInterrupt"
  | .systemExit => "SystemExit"

/-- A raised exception: its class and its message. -/
structure Error where
  kind : ErrorKind
  message : String
deriving DecidableEq

/-- `except Exception` catches the error. -/
def Error.isException (e : Error) : Bool :=
  match e.kind with
  | .keyboardInterrupt | .systemExit => false
  | _ => true

/-- `except ValueError` catches the error. -/
def Error.isValueError (e : Error) : Bool :=
  e.kind == .valueError

/-- `raise ValueError(message)` and its siblings. -/
def valueError (message : String) : Error := ⟨.valueError, message⟩
def typeError (message : String) : Error := ⟨.typeError, message⟩
def keyError (message : String) : Error := ⟨.keyError, message⟩
def indexError (message : String) : Error := ⟨.indexError, message⟩
def runtimeError (message : String) : Error := ⟨.runtimeError, message⟩
def attributeError (message : String) : Error := ⟨.attributeError, message⟩
def integrityError (message : String) : Error := ⟨.integrityError, message⟩
def programmingError (message : String) : Error := ⟨.programmingError, message⟩
def memoryError (message : String) : Error := ⟨.memoryError, message⟩
def operatorError (message : String) : Error := ⟨.operatorError, message⟩
def transitionError (message : String) : Error := ⟨.attemptTransitionError, message⟩
def blockedError (reason : String) : Error :=
  ⟨.executionBundleBlockedError, "industrial execution bundle is BLOCKED: " ++ reason⟩

theorem isException_of_isValueError {e : Error} (h : e.isValueError = true) :
    e.isException = true := by
  unfold Error.isValueError at h
  unfold Error.isException
  cases hk : e.kind <;> simp_all

/-! ## Checks that raise -/

/-- `if not condition: raise error`. -/
def require (condition : Prop) [Decidable condition] (error : Error) : Except Error Unit :=
  if condition then .ok () else .error error

variable {β ε : Type*} {condition : Prop}

@[simp] theorem require_eq_ok [Decidable condition] {error : Error} {u : Unit} :
    require condition error = .ok u ↔ condition := by
  unfold require
  split <;> simp_all

/-- A check in a sequence of statements: it holds, and what follows returned. -/
theorem check_eq_ok [Decidable condition] {error : Error} {p : Unit → Prop} :
    (∃ u, require condition error = .ok u ∧ p u) ↔ condition ∧ p () := by
  constructor
  · rintro ⟨_, h, hp⟩
    exact ⟨require_eq_ok.mp h, hp⟩
  · rintro ⟨h, hp⟩
    exact ⟨(), require_eq_ok.mpr h, hp⟩

@[simp] theorem require_eq_error [Decidable condition] {error e : Error} :
    require condition error = .error e ↔ ¬ condition ∧ error = e := by
  unfold require
  split <;> simp_all

/-- A check that holds does nothing. -/
theorem require_of [Decidable condition] (h : condition) (error : Error) :
    require condition error = .ok () :=
  require_eq_ok.mpr h

/-- A sequence of statements returned: each of them did. -/
theorem bind_eq_ok {α β : Type} {x : Except ε α} {f : α → Except ε β} {b : β} :
    (x >>= f) = .ok b ↔ ∃ a, x = .ok a ∧ f a = .ok b := by
  cases x with
  | error e => simp [bind, Except.bind]
  | ok a => simp [bind, Except.bind]

/-- A computation that returns goes on with what follows it. -/
theorem exists_bind_ok {α β : Type} {x : Except ε α} {f : α → Except ε β} {a : α} (hx : x = .ok a)
    (h : ∃ b, f a = .ok b) : ∃ b, (x >>= f) = .ok b := by
  obtain ⟨b, hb⟩ := h
  exact ⟨b, bind_eq_ok.mpr ⟨a, hx, hb⟩⟩

/-- A sequence of statements raised: the first of them that did. -/
theorem bind_eq_error {α β : Type} {x : Except ε α} {f : α → Except ε β} {e : ε} :
    (x >>= f) = .error e ↔ x = .error e ∨ ∃ a, x = .ok a ∧ f a = .error e := by
  cases x with
  | error e' => simp [bind, Except.bind]
  | ok a => simp [bind, Except.bind]

/-- A value computed from what a statement returned. -/
@[simp] theorem map_eq_ok {α β : Type} {x : Except ε α} {f : α → β} {b : β} :
    (f <$> x) = .ok b ↔ ∃ a, x = .ok a ∧ f a = b := by
  cases x with
  | error e => simp [Functor.map, Except.map]
  | ok a => simp [Functor.map, Except.map]

@[simp] theorem pure_eq_ok {α : Type*} {a b : α} : (pure a : Except ε α) = .ok b ↔ a = b := by
  simp [pure, Except.pure]

@[simp] theorem pure_ne_error {α : Type*} {a : α} {e : ε} : (pure a : Except ε α) ≠ .error e := by
  simp [pure, Except.pure]

/-- A constructor: the record, when its `__post_init__` does not raise. -/
def validated {α : Type} (postInit : α → Except Error Unit) (record : α) : Except Error α := do
  postInit record
  pure record

@[simp] theorem validated_eq_ok {α : Type} {postInit : α → Except Error Unit} {record made : α} :
    validated postInit record = .ok made ↔ postInit record = .ok () ∧ record = made := by
  unfold validated
  rw [bind_eq_ok]
  constructor
  · rintro ⟨⟨⟩, hinit, hmade⟩
    exact ⟨hinit, pure_eq_ok.mp hmade⟩
  · rintro ⟨hinit, rfl⟩
    exact ⟨(), hinit, rfl⟩

/-- Consecutive checks, the first failing one raises. -/
def requireAll : List (Bool × Error) → Except Error Unit
  | [] => .ok ()
  | (condition, error) :: rest => if condition then requireAll rest else .error error

@[simp] theorem requireAll_eq_ok {checks : List (Bool × Error)} {u : Unit} :
    requireAll checks = .ok u ↔ ∀ check ∈ checks, check.1 = true := by
  induction checks with
  | nil => simp [requireAll]
  | cons check rest ih =>
    obtain ⟨condition, error⟩ := check
    cases condition with
    | false => simp [requireAll]
    | true => simp [requireAll, ih]

/-- `for value in values: check(value)`. -/
def forEach {α : Type*} (check : α → Except Error Unit) : List α → Except Error Unit
  | [] => .ok ()
  | value :: rest =>
    match check value with
    | .error e => .error e
    | .ok () => forEach check rest

@[simp] theorem forEach_eq_ok {α : Type*} {check : α → Except Error Unit} {values : List α}
    {u : Unit} : forEach check values = .ok u ↔ ∀ value ∈ values, check value = .ok () := by
  induction values with
  | nil => simp [forEach]
  | cons value rest ih =>
    unfold forEach
    cases hcheck : check value with
    | error e => simp [hcheck]
    | ok _ => simp [hcheck, ih]

/-- The first check that fails raises. -/
theorem forEach_eq_error {α : Type*} {check : α → Except Error Unit} {values : List α} {e : Error} :
    forEach check values = .error e ↔ ∃ before value after, values = before ++ value :: after ∧
      (∀ x ∈ before, check x = .ok ()) ∧ check value = .error e := by
  induction values with
  | nil => simp [forEach]
  | cons first rest ih =>
    unfold forEach
    constructor
    · intro h
      cases hcheck : check first with
      | error e' =>
        rw [hcheck] at h
        cases h
        exact ⟨[], first, rest, rfl, nofun, hcheck⟩
      | ok _ =>
        rw [hcheck] at h
        rcases ih.mp h with ⟨before, value, after, rfl, hbefore, hvalue⟩
        exact ⟨first :: before, value, after, rfl,
          forall_mem_cons.mpr ⟨hcheck, hbefore⟩, hvalue⟩
    · rintro ⟨before, value, after, hsplit, hbefore, hvalue⟩
      cases before with
      | nil =>
        rcases List.cons.inj hsplit with ⟨rfl, rfl⟩
        rw [hvalue]
      | cons head before =>
        rcases List.cons.inj hsplit with ⟨rfl, rfl⟩
        rw [hbefore first mem_cons_self]
        exact ih.mpr ⟨before, value, after, rfl,
          fun x hx => hbefore x (mem_cons_of_mem _ hx), hvalue⟩

theorem forEach_map {α : Type*} (check : β → Except Error Unit) (f : α → β) (values : List α) :
    forEach check (values.map f) = forEach (fun value => check (f value)) values := by
  induction values with
  | nil => rfl
  | cons value rest ih =>
    simp only [map_cons, forEach]
    rw [ih]

/-- `tuple(f(x) for x in xs)`: the values in order, or the first error. -/
def collect {α : Type} : List (Except Error α) → Except Error (List α)
  | [] => .ok []
  | outcome :: rest => do
    let value ← outcome
    let values ← collect rest
    pure (value :: values)

theorem collect_eq_ok {α : Type} {outcomes : List (Except Error α)} {values : List α} :
    collect outcomes = .ok values ↔ outcomes = values.map .ok := by
  induction outcomes generalizing values with
  | nil => cases values <;> simp [collect]
  | cons outcome rest ih =>
    simp only [collect, bind_eq_ok, pure_eq_ok]
    constructor
    · rintro ⟨value, rfl, others, hrest, rfl⟩
      rw [ih.mp hrest]
      rfl
    · intro h
      cases values with
      | nil => cases h
      | cons value others =>
        obtain ⟨rfl, hrest⟩ := List.cons.inj h
        exact ⟨value, rfl, others, ih.mpr hrest, rfl⟩

/-! ## Text -/

/-- `str.isspace` of one character. -/
def isSpace (c : Char) : Bool :=
  let n := c.toNat
  (0x09 ≤ n && n ≤ 0x0D) || (0x1C ≤ n && n ≤ 0x20) || n == 0x85 || n == 0xA0 || n == 0x1680 ||
    (0x2000 ≤ n && n ≤ 0x200A) || n == 0x2028 || n == 0x2029 || n == 0x202F || n == 0x205F ||
    n == 0x3000

/-- `value and value.strip() == value`: the text is non-empty and neither its
first nor its last character is white space. -/
def isCanonicalText (value : String) : Bool :=
  match value.toList.head?, value.toList.getLast? with
  | some first, some last => !isSpace first && !isSpace last
  | _, _ => false

/-- `value.strip()` is non-empty: some character is not white space. -/
def isNonBlank (value : String) : Bool :=
  value.toList.any fun c => !isSpace c

def hasNul (value : String) : Bool :=
  value.toList.contains '\x00'

/-- The checks of `_require_text(value, label)`. -/
def textChecks (label value : String) : List (Bool × Error) :=
  [(isNonBlank value, valueError s!"{label} must be a non-empty string"),
   (!hasNul value, valueError s!"{label} cannot contain NUL")]

/-- `_require_text` of a value that may be `None`. -/
def optionTextChecks (label : String) : Option String → List (Bool × Error)
  | none => [(false, valueError s!"{label} must be a non-empty string")]
  | some value => textChecks label value

def requireText (label value : String) : Except Error Unit :=
  requireAll (textChecks label value)

/-- `Path(value).is_absolute()` on POSIX. -/
def isAbsolutePath (value : String) : Bool :=
  value.toList.head? == some '/'

/-! ## `len(values) != len(set(values))` -/

/-- The usual Python test for duplicates. -/
theorem length_eq_length_dedup_iff [DecidableEq β] {values : List β} :
    values.length = values.dedup.length ↔ values.Nodup := by
  constructor
  · intro h
    rw [← dedup_eq_self]
    exact (dedup_sublist values).eq_of_length h.symm
  · intro h
    rw [dedup_eq_self.mpr h]

/-! ## `sorted(set(..))` -/

variable {α : Type*} [LinearOrder α]

def sortedSet (values : List α) : List α :=
  values.dedup.insertionSort (· ≤ ·)

@[simp] theorem mem_sortedSet {values : List α} {a : α} : a ∈ sortedSet values ↔ a ∈ values := by
  simp [sortedSet]

@[simp] theorem sortedSet_eq_nil {values : List α} : sortedSet values = [] ↔ values = [] := by
  constructor
  · intro h
    rw [eq_nil_iff_forall_not_mem] at h ⊢
    intro a ha
    exact h a (mem_sortedSet.mpr ha)
  · rintro rfl
    rfl

theorem nodup_sortedSet (values : List α) : (sortedSet values).Nodup :=
  (perm_insertionSort _ _).nodup_iff.mpr (nodup_dedup _)

/-- The result depends only on which values occur, not on their order or
their multiplicities. -/
theorem sortedSet_congr {values values' : List α} (h : ∀ a, a ∈ values ↔ a ∈ values') :
    sortedSet values = sortedSet values' := by
  have hperm : (sortedSet values).Perm (sortedSet values') := by
    rw [perm_ext_iff_of_nodup (nodup_sortedSet _) (nodup_sortedSet _)]
    intro a
    simp [h]
  exact hperm.eq_of_sortedLE sortedLE_insertionSort sortedLE_insertionSort

@[simp] theorem sortedSet_idem (values : List α) : sortedSet (sortedSet values) = sortedSet values :=
  sortedSet_congr fun _ => mem_sortedSet

/-- A list is that of its values, sorted, if it is strictly increasing. -/
theorem sortedSet_eq_self_iff {values : List α} :
    sortedSet values = values ↔ values.Pairwise (· < ·) := by
  have hsorted : (sortedSet values).Pairwise (· ≤ ·) :=
    sortedLE_insertionSort.pairwise
  constructor
  · intro h
    have hnodup := nodup_sortedSet values
    rw [h] at hsorted hnodup
    exact (hsorted.and hnodup).imp fun h => lt_of_le_of_ne h.1 h.2
  · intro h
    have hnodup : values.Nodup := h.imp fun hlt => ne_of_lt hlt
    have hperm : (sortedSet values).Perm values := by
      rw [perm_ext_iff_of_nodup (nodup_sortedSet values) hnodup]
      exact fun _ => mem_sortedSet
    exact hperm.eq_of_pairwise (fun _ _ _ _ => le_antisymm) hsorted (h.imp le_of_lt)

example : sortedSet ["rank_1:readiness", "rank_0:readiness", "rank_1:readiness"]
    = ["rank_0:readiness", "rank_1:readiness"] := by decide

/-! ## `len(set(values)) > 1` -/

theorem length_dedup_le_one_iff {β : Type*} [DecidableEq β] {values : List β} :
    values.dedup.length ≤ 1 ↔ ∀ a ∈ values, ∀ b ∈ values, a = b := by
  constructor
  · intro h a ha b hb
    rw [← mem_dedup] at ha hb
    match hd : values.dedup with
    | [] => rw [hd] at ha; cases ha
    | [c] =>
      rw [hd, mem_singleton] at ha hb
      rw [ha, hb]
    | c :: d :: rest => rw [hd] at h; simp at h
  · intro h
    by_contra hlen
    match hd : values.dedup with
    | [] => rw [hd] at hlen; simp at hlen
    | [c] => rw [hd] at hlen; simp at hlen
    | c :: d :: rest =>
      have hnd := nodup_dedup values
      rw [hd] at hnd
      refine (nodup_cons.mp hnd).1 ?_
      have hc : c ∈ values := mem_dedup.mp (by rw [hd]; simp)
      have hd' : d ∈ values := mem_dedup.mp (by rw [hd]; simp)
      rw [h c hc d hd']
      exact mem_cons_self

/-- `next(iter(set(values)), None)` of a set with at most one element. -/
theorem head?_dedup_eq_some [DecidableEq β] {values : List β} {b : β} (hb : b ∈ values)
    (h : ∀ a ∈ values, a = b) : values.dedup.head? = some b := by
  cases hd : values.dedup with
  | nil =>
    rw [← mem_dedup, hd] at hb
    cases hb
  | cons c rest =>
    rw [head?_cons, h c (mem_dedup.mp (by rw [hd]; exact mem_cons_self))]

/-! ## `sorted(.., key=..)` -/

def sortedBy {β : Type*} (key : β → α) (values : List β) : List β :=
  values.insertionSort fun a b => key a ≤ key b

@[simp] theorem mem_sortedBy {key : β → α} {values : List β} {b : β} :
    b ∈ sortedBy key values ↔ b ∈ values := by
  simp [sortedBy]

theorem sortedBy_perm (key : β → α) (values : List β) : (sortedBy key values).Perm values :=
  perm_insertionSort _ _

theorem sortedBy_pairwise (key : β → α) (values : List β) :
    (sortedBy key values).Pairwise fun a b => key a ≤ key b := by
  have : Std.Total fun a b : β => key a ≤ key b := ⟨fun a b => le_total (key a) (key b)⟩
  have : IsTrans β fun a b => key a ≤ key b := ⟨fun _ _ _ hab hbc => le_trans hab hbc⟩
  exact pairwise_insertionSort _ values

/-- Sorting commutes with a function that keeps the key. -/
theorem sortedBy_map {key : β → α} {f : β → β} (hf : ∀ b, key (f b) = key b) (values : List β) :
    sortedBy key (values.map f) = (sortedBy key values).map f :=
  (map_insertionSort _ _ f values fun a _ b _ => by rw [hf a, hf b]).symm

/-- Sorting commutes with a function when the keys are the same before and after it. -/
theorem sortedBy_map_of_key {γ : Type*} (key : β → α) {key' : γ → α} {f : β → γ}
    (hf : ∀ b, key' (f b) = key b) (values : List β) :
    sortedBy key' (values.map f) = (sortedBy key values).map f :=
  (map_insertionSort _ _ f values fun a _ b _ => by rw [hf a, hf b]).symm

/-- With distinct keys the sorted list does not depend on the order given. -/
theorem sortedBy_congr {key : β → α} {values values' : List β} (hnd : (values.map key).Nodup)
    (hperm : values.Perm values') : sortedBy key values = sortedBy key values' := by
  have hp : (sortedBy key values).Perm (sortedBy key values') :=
    (sortedBy_perm key values).trans (hperm.trans (sortedBy_perm key values').symm)
  refine hp.eq_of_pairwise ?_ (sortedBy_pairwise key values) (sortedBy_pairwise key values')
  intro a b ha hb hab hba
  have ha' : a ∈ values := mem_sortedBy.mp ha
  have hb' : b ∈ values := hperm.mem_iff.mpr (mem_sortedBy.mp hb)
  exact inj_on_of_nodup_map hnd ha' hb' (le_antisymm hab hba)

/-- Sorted by distinct keys, the keys are sorted. -/
theorem map_sortedBy {key : β → α} {values : List β} (hnd : (values.map key).Nodup) :
    (sortedBy key values).map key = sortedSet (values.map key) := by
  unfold sortedBy sortedSet
  rw [dedup_eq_self.mpr hnd]
  exact map_insertionSort _ _ key values fun a _ b _ => Iff.rfl

end Python

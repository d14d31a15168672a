import LightConeSpec.Lib.Json
import LightConeSpec.Lib.Raising

/-!
# What the decoder of JSON raises and returns

It raises a `RecursionError` exactly at a bracket that opens a container inside `limit` open ones,
and `ValueError`s otherwise. An object that it returns has no key twice.
-/

namespace Json

open Python List

variable {limit : ℕ} {st : State} {c : ℕ}

theorem run_append (limit : ℕ) (st : State) (a b : Text) :
    run limit st (a ++ b) = (run limit st a >>= fun st => run limit st b) := by
  induction a generalizing st with
  | nil => rfl
  | cons c rest ih =>
    simp only [cons_append, run]
    cases step limit st c with
    | error e => rfl
    | ok st' => exact ih st'

/-- A text that begins with one that was read. -/
theorem run_append_ok {st' : State} {a : Text} (h : run limit st a = .ok st') (b : Text) :
    run limit st (a ++ b) = run limit st' b := by
  rw [run_append, h]
  rfl

/-! ## Exceptions -/

/-- A container is opened inside `limit` open ones. -/
structure Opens (limit : ℕ) (st : State) (c : ℕ) : Prop where
  mode : st.mode = .value ∨ st.mode = .firstItem
  bracket : c = '['.toNat ∨ c = '\x7b'.toNat
  full : limit ≤ st.stack.length

/-- What the decoder may raise. -/
def Refuses (e : Error) : Prop := Caught e ∨ e = recursionError

variable (limit c) in
theorem startValue_raises (stack : List Frame) : RaisesOnly Caught (startValue limit stack c) ∨
      startValue limit stack c = .error recursionError ∧
        (c = '['.toNat ∨ c = '\x7b'.toNat) ∧ limit ≤ stack.length := by
  unfold startValue enter
  split
  · exact .inl raisesOnly_ok
  split
  · rename_i hbracket
    split
    · exact .inl raisesOnly_ok
    · rename_i hfull
      exact .inr ⟨rfl, .inl hbracket, Nat.le_of_not_lt hfull⟩
  split
  · rename_i hbracket
    split
    · exact .inl raisesOnly_ok
    · rename_i hfull
      exact .inr ⟨rfl, .inr hbracket, Nat.le_of_not_lt hfull⟩
  left
  repeat'
    split
    · exact raisesOnly_ok
  exact raisesOnly_error.mpr rfl

theorem startValue_full {stack : List Frame} (hbracket : c = '['.toNat ∨ c = '\x7b'.toNat)
    (hfull : limit ≤ stack.length) : startValue limit stack c = .error recursionError := by
  rcases hbracket with rfl | rfl
  · simp [startValue, enter, hfull]
  · simp [startValue, enter, hfull]

theorem closeObject_raises (stack : List Frame) (items : List (Text × Json)) :
    RaisesOnly Caught (closeObject stack items) := by
  unfold closeObject
  split
  · exact raisesOnly_ok
  · exact raisesOnly_error.mpr rfl

theorem afterValue_raises (stack : List Frame) (v : Json) : RaisesOnly Caught (afterValue stack v c) := by
  unfold afterValue
  split
  · exact raisesOnly_ok
  split
  · repeat'
      split
      · exact raisesOnly_ok
    exact raisesOnly_error.mpr rfl
  · split
    · exact raisesOnly_ok
    split
    · exact closeObject_raises _ _
    · exact raisesOnly_error.mpr rfl
  · exact raisesOnly_error.mpr rfl

theorem finishNumber_raises (part : NumberPart) (text : Text) :
    RaisesOnly Caught (finishNumber part text) := by
  have hint : RaisesOnly Caught (intOfText text) := by
    unfold intOfText
    dsimp only
    split
    · exact raisesOnly_ok
    · exact raisesOnly_error.mpr rfl
  cases part with
  | zero => exact hint
  | int => exact hint
  | fraction => exact raisesOnly_ok
  | exponentDigits => exact raisesOnly_ok
  | minus => exact raisesOnly_error.mpr rfl
  | point => exact raisesOnly_error.mpr rfl
  | exponent => exact raisesOnly_error.mpr rfl
  | exponentSign => exact raisesOnly_error.mpr rfl

/-- One code point: all exceptions are `ValueError`s, that of a bracket that opens too deep
apart. -/
theorem step_raises (limit : ℕ) (st : State) (c : ℕ) : RaisesOnly Caught (step limit st c) ∨
      step limit st c = .error recursionError ∧ Opens limit st c := by
  -- only the start of a value can open a container
  have hstart : (st.mode = .value ∨ st.mode = .firstItem) →
      RaisesOnly Caught (startValue limit st.stack c) ∨
        startValue limit st.stack c = .error recursionError ∧ Opens limit st c := by
    intro hmode
    rcases startValue_raises limit c st.stack with h | ⟨h, hbracket, hfull⟩
    · exact .inl h
    · exact .inr ⟨h, hmode, hbracket, hfull⟩
  rcases st with ⟨stack, mode⟩
  cases mode with
  | value =>
    simp only [step]
    split
    · exact .inl raisesOnly_ok
    · exact hstart (.inl rfl)
  | firstItem =>
    simp only [step]
    split
    · exact .inl raisesOnly_ok
    split
    · exact .inl raisesOnly_ok
    · exact hstart (.inr rfl)
  | string chars high =>
    left
    simp only [step]
    split
    · exact raisesOnly_ok
    split
    · exact raisesOnly_ok
    split
    · exact raisesOnly_error.mpr rfl
    · exact raisesOnly_ok
  | firstKey | key | colon =>
    left
    simp only [step]
    repeat'
      split
      · exact raisesOnly_ok
    exact raisesOnly_error.mpr rfl
  | after v => exact .inl (afterValue_raises stack v)
  | escape chars high =>
    left
    simp only [step]
    split
    · exact raisesOnly_ok
    split
    · exact raisesOnly_ok
    · exact raisesOnly_error.mpr rfl
  | hex chars high digits code =>
    left
    simp only [step]
    split
    · exact raisesOnly_error.mpr rfl
    split
    · exact raisesOnly_ok
    · exact raisesOnly_ok
  | number part text =>
    left
    simp only [step]
    split
    · exact raisesOnly_ok
    · -- the number has ended, and the character follows it
      exact raisesOnly_bind (finishNumber_raises _ _) fun v _ => afterValue_raises stack v
  | literal rest v =>
    left
    simp only [step]
    split
    · exact raisesOnly_error.mpr rfl
    split
    · exact raisesOnly_error.mpr rfl
    split
    · exact raisesOnly_ok
    · exact raisesOnly_ok

theorem step_full (h : Opens limit st c) : step limit st c = .error recursionError := by
  rcases st with ⟨stack, mode⟩
  rcases h with ⟨hmode, hbracket, hfull⟩
  have hspace : isSpace c = false ∧ c ≠ ']'.toNat := by
    rcases hbracket with rfl | rfl
    · decide
    · decide
  have hstart := startValue_full hbracket hfull
  rcases hmode with hmode | hmode
  · dsimp only at hmode
    subst hmode
    simp only [step, hspace.1, Bool.false_eq_true, if_false]
    exact hstart
  · dsimp only at hmode
    subst hmode
    simp only [step, hspace.1, hspace.2, Bool.false_eq_true, if_false]
    exact hstart

theorem not_caught_recursionError : ¬ Caught recursionError := nofun

/-- A text raises `ValueError`s only, unless one of its brackets opens too deep. -/
theorem run_raises (limit : ℕ) (st : State) (text : Text) :
    RaisesOnly Caught (run limit st text) ∨ run limit st text = .error recursionError := by
  induction text generalizing st with
  | nil => exact .inl raisesOnly_ok
  | cons c rest ih =>
    unfold run
    rcases step_raises limit st c with hstep | ⟨hstep, -⟩
    · cases hst : step limit st c with
      | error e => exact .inl (raisesOnly_error.mpr (hstep e hst))
      | ok st' => exact ih st'
    · rw [hstep]
      exact .inr rfl

/-- The `RecursionError` is raised at a bracket that the decoder comes to and that opens a
container inside `limit` open ones. -/
theorem run_eq_recursionError_iff {text : Text} : run limit st text = .error recursionError ↔
      ∃ before c rest st', text = before ++ c :: rest ∧ run limit st before = .ok st' ∧
        Opens limit st' c := by
  constructor
  · intro h
    induction text generalizing st with
    | nil => cases h
    | cons c rest ih =>
      unfold run at h
      cases hst : step limit st c with
      | error e =>
        rw [hst] at h
        rcases step_raises limit st c with hstep | ⟨-, hopens⟩
        · have hcaught := hstep e hst
          cases h
          exact absurd hcaught not_caught_recursionError
        · exact ⟨[], c, rest, st, rfl, rfl, hopens⟩
      | ok st' =>
        rw [hst] at h
        rcases ih h with ⟨before, c', rest', st'', rfl, hrun, hopens⟩
        refine ⟨c :: before, c', rest', st'', rfl, ?_, hopens⟩
        unfold run
        rw [hst]
        exact hrun
  · rintro ⟨before, c, rest, st', rfl, hrun, hopens⟩
    rw [run_append_ok hrun]
    unfold run
    rw [step_full hopens]
    rfl

theorem finish_raises (st : State) : RaisesOnly Caught (finish st) := by
  unfold finish
  split
  · exact raisesOnly_ok
  · exact finishNumber_raises _ _
  · exact raisesOnly_error.mpr rfl

/-- `json.loads` raises `ValueError`s and the `RecursionError`. -/
theorem loads_raises (limit : ℕ) (text : Text) : RaisesOnly Refuses (loads limit text) := by
  refine raisesOnly_bind ?_ fun st _ => (finish_raises st).mono fun _ => .inl
  rcases run_raises limit ⟨[], .value⟩ text with h | h
  · exact h.mono fun _ => .inl
  · rw [h]
    exact raisesOnly_error.mpr (.inr rfl)

theorem loads_eq_recursionError_iff {text : Text} : loads limit text = .error recursionError ↔
      run limit ⟨[], .value⟩ text = .error recursionError := by
  unfold loads
  constructor
  · intro h
    rcases bind_eq_error.mp h with h | ⟨st, -, h⟩
    · exact h
    · exact absurd (finish_raises st _ h) not_caught_recursionError
  · intro h
    rw [h]
    rfl

/-- Brackets are opened until the stack is full. -/
theorem run_brackets (limit n : ℕ) (stack : List Frame) (h : stack.length + n ≤ limit) :
    run limit ⟨stack, .firstItem⟩ (List.replicate n '['.toNat)
      = .ok ⟨List.replicate n (.array []) ++ stack, .firstItem⟩ := by
  induction n generalizing stack with
  | zero => rfl
  | succ n ih =>
    have hroom : stack.length < limit := by omega
    have hstep : step limit ⟨stack, .firstItem⟩ '['.toNat
        = .ok ⟨.array [] :: stack, .firstItem⟩ := by
      show enter limit stack (.array []) .firstItem = _
      unfold enter
      rw [if_pos hroom]
    have hrest := ih (.array [] :: stack) (by rw [length_cons]; omega)
    rw [replicate_succ]
    unfold run
    rw [hstep]
    refine hrest.trans ?_
    rw [replicate_succ', append_assoc]
    rfl

/-- `limit + 1` brackets are one too many, whatever follows them. -/
theorem loads_brackets (limit : ℕ) (rest : Text) :
    loads limit (List.replicate (limit + 1) '['.toNat ++ rest) = .error recursionError := by
  rw [loads_eq_recursionError_iff, run_eq_recursionError_iff]
  cases limit with
  | zero => exact ⟨[], '['.toNat, rest, ⟨[], .value⟩, rfl, rfl, .inl rfl, .inl rfl, le_refl 0⟩
  | succ n =>
    refine ⟨List.replicate (n + 1) '['.toNat, '['.toNat, rest,
      ⟨List.replicate n (.array []) ++ [.array []], .firstItem⟩, ?_, ?_, .inr rfl, .inl rfl, ?_⟩
    · rw [replicate_succ', append_assoc]
      rfl
    · rw [replicate_succ]
      have hrun := run_brackets (n + 1) n [.array []]
        (by rw [length_singleton]; omega)
      exact hrun
    · simp

/-! ## Distinct keys -/

/-- An object whose keys are distinct, or another value. -/
def DistinctKeys (v : Json) : Prop :=
  ∀ items, v = .obj items → (items.map Prod.fst).Nodup

/-- The value that the decoder has read, or is about to have read, has distinct keys. -/
def Mode.Keeps : Mode → Prop
  | .after v | .literal _ v => DistinctKeys v
  | _ => True

theorem afterValue_keeps {stack : List Frame} {v : Json} (hv : DistinctKeys v) {st : State}
    (h : afterValue stack v c = .ok st) : st.mode.Keeps := by
  unfold afterValue at h
  split at h
  · cases h
    exact hv
  split at h
  · split at h
    · cases h
      trivial
    split at h
    · cases h
      exact nofun
    · cases h
  · split at h
    · cases h
      trivial
    split at h
    · unfold closeObject at h
      split at h
      · rename_i hnodup
        cases h
        rintro _ ⟨⟩
        exact hnodup
      · cases h
    · cases h
  · cases h

theorem enter_keeps {stack : List Frame} {frame : Frame} {mode : Mode} (hmode : mode.Keeps)
    (h : enter limit stack frame mode = .ok st) : st.mode.Keeps := by
  unfold enter at h
  split at h
  · cases h
    exact hmode
  · cases h

theorem startValue_keeps {stack : List Frame} (h : startValue limit stack c = .ok st) :
    st.mode.Keeps := by
  unfold startValue at h
  split at h
  · cases h
    trivial
  split at h
  · refine enter_keeps ?_ h
    trivial
  split at h
  · refine enter_keeps ?_ h
    trivial
  -- the other branches begin a number or a literal, which is no object
  repeat'
    split at h
    · cases h
      first | trivial | exact nofun
  cases h

theorem finishNumber_distinct {part : NumberPart} {text : Text} {v : Json}
    (h : finishNumber part text = .ok v) : DistinctKeys v := by
  rintro items rfl
  cases part with
  | zero | int =>
    unfold finishNumber intOfText at h
    dsimp only at h
    split at h
    · cases h
    · cases h
  | fraction | exponentDigits => cases h
  | minus | point | exponent | exponentSign => cases h

theorem closeString_keeps (stack : List Frame) (chars : Text) :
    (closeString stack chars).mode.Keeps := by
  unfold closeString
  split
  · trivial
  · exact nofun

theorem pushUnit_keeps (chars : Text) (high : Bool) (unit : ℕ) :
    (pushUnit chars high unit).Keeps := by
  unfold pushUnit
  split
  · split
    · trivial
    · trivial
  · trivial

/-- Every transition keeps the keys of a finished object distinct. -/
theorem step_keeps {st' : State} (hst : st.mode.Keeps) (h : step limit st c = .ok st') :
    st'.mode.Keeps := by
  rcases st with ⟨stack, mode⟩
  cases mode with
  | value =>
    simp only [step] at h
    split at h
    · cases h
      trivial
    · exact startValue_keeps h
  | firstItem =>
    simp only [step] at h
    split at h
    · cases h
      trivial
    split at h
    · cases h
      exact nofun
    · exact startValue_keeps h
  | firstKey =>
    simp only [step] at h
    split at h
    · cases h
      trivial
    split at h
    · cases h
      -- an empty object has no keys
      rintro _ ⟨⟩
      exact nodup_nil
    split at h
    · cases h
      trivial
    · cases h
  | key | colon =>
    simp only [step] at h
    split at h
    · cases h
      trivial
    split at h
    · cases h
      trivial
    · cases h
  | after v => exact afterValue_keeps hst h
  | string chars high =>
    simp only [step] at h
    split at h
    · cases h
      exact closeString_keeps _ _
    split at h
    · cases h
      trivial
    split at h
    · cases h
    · cases h
      trivial
  | escape chars high =>
    simp only [step] at h
    split at h
    · cases h
      trivial
    split at h
    · cases h
      trivial
    · cases h
  | hex chars high digits code =>
    simp only [step] at h
    split at h
    · cases h
    split at h
    · cases h
      trivial
    · cases h
      exact pushUnit_keeps _ _ _
  | number part text =>
    simp only [step] at h
    split at h
    · cases h
      trivial
    · -- the number has ended, and the character follows it
      rcases bind_eq_ok.mp h with ⟨v, hv, h⟩
      exact afterValue_keeps (finishNumber_distinct hv) h
  | literal rest v =>
    simp only [step] at h
    split at h
    · cases h
    split at h
    · cases h
    split at h
    · cases h
      exact hst
    · cases h
      exact hst

/-- An object that `json.loads` returns has no key twice. -/
theorem loads_distinct {text : Text} {items : List (Text × Json)}
    (h : loads limit text = .ok (.obj items)) : (items.map Prod.fst).Nodup := by
  have hrun : ∀ text st st', st.mode.Keeps → run limit st text = .ok st' → st'.mode.Keeps := by
    intro text
    induction text with
    | nil =>
      intro st st' hst h
      cases h
      exact hst
    | cons c rest ih =>
      intro st st' hst h
      rcases bind_eq_ok.mp h with ⟨next, hstep, h⟩
      exact ih next st' (step_keeps hst hstep) h
  rcases bind_eq_ok.mp h with ⟨⟨stack, mode⟩, hst, h⟩
  have hkeeps := hrun text ⟨[], .value⟩ _ trivial hst
  unfold finish at h
  split at h
  · rename_i v heq
    cases heq
    cases h
    exact hkeeps items rfl
  · exact finishNumber_distinct h items rfl
  · cases h

end Json

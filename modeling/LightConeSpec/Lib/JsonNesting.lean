import LightConeSpec.Lib.JsonRoundTrip

/-!
# How deep JSON nests

A smaller limit changes nothing but where a `RecursionError` is raised. The encoder raises it
exactly at a container inside as many others as it may enter, when everything before that
container can be written.
-/

namespace Json

open Python

variable {floatRepr : Text → Option Text} {limit limit' : ℕ}

/-! ## Decoding -/

theorem startValue_le (h : limit ≤ limit') (stack : List Frame) (c : ℕ) :
    startValue limit stack c = .error recursionError ∨
      startValue limit stack c = startValue limit' stack c := by
  by_cases hroom : stack.length < limit
  · right
    have hroom' : stack.length < limit' := by omega
    simp only [startValue, enter_of_lt hroom, enter_of_lt hroom']
  · by_cases hbracket : c = '['.toNat ∨ c = '\x7b'.toNat
    · exact .inl (startValue_full hbracket (Nat.le_of_not_lt hroom))
    · right
      rw [not_or] at hbracket
      simp only [startValue, hbracket.1, hbracket.2, if_false]

theorem step_le (h : limit ≤ limit') (st : State) (c : ℕ) :
    step limit st c = .error recursionError ∨ step limit st c = step limit' st c := by
  rcases st with ⟨stack, mode⟩
  cases mode with
  | value =>
    simp only [step]
    split
    · exact .inr rfl
    · exact startValue_le h stack c
  | firstItem =>
    simp only [step]
    split
    · exact .inr rfl
    split
    · exact .inr rfl
    · exact startValue_le h stack c
  | firstKey | key | colon | after | string | escape | hex | number | literal => exact .inr rfl

theorem run_le (h : limit ≤ limit') (st : State) (text : Text) :
    run limit st text = .error recursionError ∨ run limit st text = run limit' st text := by
  induction text generalizing st with
  | nil => exact .inr rfl
  | cons c rest ih =>
    unfold run
    rcases step_le h st c with hstep | hstep
    · rw [hstep]
      exact .inl rfl
    · rw [hstep]
      cases step limit' st c with
      | error e => exact .inr rfl
      | ok st' => exact ih st'

/-- A decoder with more room reads the same. -/
theorem loads_le (h : limit ≤ limit') (text : Text) :
    loads limit text = .error recursionError ∨ loads limit text = loads limit' text := by
  unfold loads
  rcases run_le h ⟨[], .value⟩ text with hrun | hrun
  · rw [hrun]
    exact .inl rfl
  · rw [hrun]
    exact .inr rfl

/-! ## Encoding -/

/-- A value comes, as the encoder goes, to a container inside `limit` others. -/
inductive Exceeds (floatRepr : Text → Option Text) : ℕ → Json → Prop
  | array (items : List Json) : Exceeds floatRepr 0 (.arr items)
  | object (items : List (Text × Json)) : Exceeds floatRepr 0 (.obj items)
  | item {limit : ℕ} {before after : List Json} {v : Json}
      (hbefore : ∀ x ∈ before, check floatRepr x limit = .ok ()) (h : Exceeds floatRepr limit v) :
      Exceeds floatRepr (limit + 1) (.arr (before ++ v :: after))
  | field {limit : ℕ} {items before after : List (Text × Json)} {key : Text} {v : Json}
      (hsorted : sortedBy Prod.fst items = before ++ (key, v) :: after)
      (hbefore : ∀ x ∈ before, check floatRepr x.2 limit = .ok ())
      (h : Exceeds floatRepr limit v) : Exceeds floatRepr (limit + 1) (.obj items)

theorem check_arr_succ (items : List Json) (limit : ℕ) : check floatRepr (.arr items) (limit + 1)
      = forEach (fun v => check floatRepr v limit) items := by
  show forEach id (checkItems floatRepr items limit) = _
  rw [checkItems_eq, forEach_map]
  rfl

theorem check_obj_succ (items : List (Text × Json)) (limit : ℕ) :
    check floatRepr (.obj items) (limit + 1)
      = forEach (fun field => check floatRepr field.2 limit) (sortedBy Prod.fst items) := by
  have hsorted : sortedBy Prod.fst (checkFields floatRepr items limit)
      = (sortedBy Prod.fst items).map fun field => (field.1, check floatRepr field.2 limit) := by
    rw [checkFields_eq]
    refine sortedBy_map_of_key Prod.fst ?_ items
    exact fun _ => rfl
  show forEach Prod.snd (sortedBy Prod.fst (checkFields floatRepr items limit)) = _
  rw [hsorted, forEach_map]

/-- The encoder raises a `RecursionError` exactly where it comes to a container that is too
deep. -/
theorem check_eq_recursionError_iff {v : Json} :
    check floatRepr v limit = .error recursionError ↔ Exceeds floatRepr limit v := by
  constructor
  · intro h
    induction limit generalizing v with
    | zero =>
      cases v with
      | arr items => exact .array items
      | obj items => exact .object items
      | float text => exact absurd (require_eq_error.mp h).2 (by decide)
      | null | bool | int | str => cases h
    | succ limit ih =>
      cases v with
      | arr items =>
        rw [check_arr_succ, forEach_eq_error] at h
        rcases h with ⟨before, v, after, rfl, hbefore, hv⟩
        exact .item hbefore (ih hv)
      | obj items =>
        rw [check_obj_succ, forEach_eq_error] at h
        rcases h with ⟨before, ⟨key, v⟩, after, hsorted, hbefore, hv⟩
        exact .field hsorted hbefore (ih hv)
      | float text => exact absurd (require_eq_error.mp h).2 (by decide)
      | null | bool | int | str => cases h
  · intro h
    induction h with
    | array items => rfl
    | object items => rfl
    | item hbefore _ ih =>
      rw [check_arr_succ, forEach_eq_error]
      exact ⟨_, _, _, rfl, hbefore, ih⟩
    | field hsorted hbefore _ ih =>
      rw [check_obj_succ, forEach_eq_error]
      exact ⟨_, _, _, hsorted, hbefore, ih⟩

/-- `json.dumps` raises `ValueError`s and the `RecursionError`. -/
theorem check_raises (floatRepr : Text → Option Text) (v : Json) (limit : ℕ) :
    RaisesOnly Refuses (check floatRepr v limit) := by
  induction limit generalizing v with
  | zero =>
    cases v with
    | arr | obj => exact raisesOnly_error.mpr (.inr rfl)
    | float text => exact raisesOnly_require (.inl rfl)
    | null | bool | int | str => exact raisesOnly_ok
  | succ limit ih =>
    cases v with
    | arr items =>
      rw [check_arr_succ]
      exact raisesOnly_forEach fun v _ => ih v
    | obj items =>
      rw [check_obj_succ]
      exact raisesOnly_forEach fun field _ => ih field.2
    | float text => exact raisesOnly_require (.inl rfl)
    | null | bool | int | str => exact raisesOnly_ok

/-- A plain value can be written unless it is too deep. -/
theorem Plain.check_raises {v : Json} (h : Plain v) (limit : ℕ) :
    RaisesOnly (· = recursionError) (check floatRepr v limit) := by
  induction h generalizing limit with
  | null | bool | nat | str =>
    cases limit with
    | zero => exact raisesOnly_ok
    | succ limit => exact raisesOnly_ok
  | arr _ ih =>
    cases limit with
    | zero => exact raisesOnly_error.mpr rfl
    | succ limit =>
      rw [check_arr_succ]
      exact raisesOnly_forEach fun v hv => ih v hv limit
  | obj _ _ _ ih =>
    cases limit with
    | zero => exact raisesOnly_error.mpr rfl
    | succ limit =>
      rw [check_obj_succ]
      exact raisesOnly_forEach fun field hfield => ih field (mem_sortedBy.mp hfield) limit

end Json

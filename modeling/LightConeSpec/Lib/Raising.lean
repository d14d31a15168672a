import LightConeSpec.Lib.Method

/-!
# What a computation raises, and what its caller catches

`RaisesOnly P x` says that every exception of a computation has the property `P`. Its rules follow
the statements, so that a function is shown to raise only what its checks raise.
-/

namespace Python

/-- `except (TypeError, ValueError)` catches the error. -/
def Error.isTypeOrValueError (e : Error) : Bool :=
  e.kind == .typeError || e.kind == .valueError

/-- `except (TypeError, ValueError)` catches it. -/
abbrev Caught (e : Error) : Prop := e.isTypeOrValueError = true

/-- `try: x`, `finally: close()`. -/
def finallyClose {α : Type} (close : Except Error Unit) (x : Except Error α) : Except Error α :=
  match close with
  | .error e => .error e
  | .ok () => x

/-- `try: m`, where the statement that follows looks at the exception. -/
def Method.attempt {σ α : Type} (m : Method σ α) : Method σ (Except Error α) := fun s =>
  (.ok (m s).1, (m s).2)

/-! ## Exceptions with a property -/

def RaisesOnly {α : Type} (P : Error → Prop) (x : Except Error α) : Prop :=
  ∀ e, x = .error e → P e

section

variable {α β : Type} {P : Error → Prop}

variable {x : Except Error α}

theorem RaisesOnly.mono {Q : Error → Prop} (h : RaisesOnly P x) (hPQ : ∀ e, P e → Q e) :
    RaisesOnly Q x :=
  fun e he => hPQ e (h e he)

@[simp] theorem raisesOnly_ok {a : α} : RaisesOnly P (.ok a) := nofun

@[simp] theorem raisesOnly_pure {a : α} : RaisesOnly P (pure a : Except Error α) := nofun

@[simp] theorem raisesOnly_error {e : Error} : RaisesOnly P (.error e : Except Error α) ↔ P e := by
  constructor
  · exact fun h => h e rfl
  · rintro h _ ⟨⟩
    exact h

/-- A statement and what follows it. -/
theorem raisesOnly_bind {f : α → Except Error β} (hx : RaisesOnly P x)
    (hf : ∀ a, x = .ok a → RaisesOnly P (f a)) : RaisesOnly P (x >>= f) := by
  intro e he
  rcases bind_eq_error.mp he with h | ⟨a, ha, h⟩
  · exact hx e h
  · exact hf a ha e h

/-- A check raises its own exception. -/
theorem raisesOnly_require {condition : Prop} [Decidable condition] {error : Error}
    (h : P error) : RaisesOnly P (require condition error) := by
  intro e he
  rw [require_eq_error] at he
  exact he.2 ▸ h

/-- A check and what follows it. -/
theorem raisesOnly_check {condition : Prop} [Decidable condition] {error : Error}
    {f : Unit → Except Error β} (hf : condition → RaisesOnly P (f ()))
    (h : P error := by first | rfl | decide) : RaisesOnly P (require condition error >>= f) :=
  raisesOnly_bind (raisesOnly_require h) fun _ hu => hf (require_eq_ok.mp hu)

theorem raisesOnly_forEach {check : α → Except Error Unit} {values : List α}
    (h : ∀ value ∈ values, RaisesOnly P (check value)) : RaisesOnly P (forEach check values) := by
  induction values with
  | nil => exact raisesOnly_ok
  | cons value rest ih =>
    unfold forEach
    have hvalue := h value List.mem_cons_self
    cases hcheck : check value with
    | error e => exact raisesOnly_error.mpr (hvalue e hcheck)
    | ok u => exact ih fun other hother => h other (List.mem_cons_of_mem _ hother)

theorem raisesOnly_map {f : α → β} (h : RaisesOnly P x) : RaisesOnly P (f <$> x) := by
  cases x with
  | error e => exact raisesOnly_error.mpr (h e rfl)
  | ok a => exact raisesOnly_ok

theorem raisesOnly_collect {outcomes : List (Except Error α)}
    (h : ∀ outcome ∈ outcomes, RaisesOnly P outcome) : RaisesOnly P (collect outcomes) := by
  induction outcomes with
  | nil => exact raisesOnly_ok
  | cons outcome rest ih =>
    refine raisesOnly_bind (h outcome List.mem_cons_self) fun _ _ => ?_
    refine raisesOnly_bind ?_ fun _ _ => raisesOnly_pure
    exact ih fun other hother => h other (List.mem_cons_of_mem _ hother)

theorem raisesOnly_validated {postInit : α → Except Error Unit} {record : α}
    (h : RaisesOnly P (postInit record)) : RaisesOnly P (validated postInit record) :=
  raisesOnly_bind h fun _ _ => raisesOnly_pure

theorem raisesOnly_finallyClose {close : Except Error Unit} (hclose : RaisesOnly P close)
    (hx : RaisesOnly P x) : RaisesOnly P (finallyClose close x) := by
  unfold finallyClose
  cases hc : close with
  | error e => exact raisesOnly_error.mpr (hclose e hc)
  | ok u => exact hx

end

end Python

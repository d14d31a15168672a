import LightConeSpec.Lib.Python

/-!
# Methods of a mutable object

A Python method reads and assigns the fields of its object and may raise. What
it assigned before it raised stays assigned, so the state is part of the result
whether the method returns or raises.

`PerformsAt m s R` says that the method, called in state `s`, either raises and
leaves the state as it was, or returns with `R`. Its rules follow the
statements: reads and checks keep the obligation, and after the first
assignment the rest has to return. `LeavesAt m s P` is about methods that may
also raise halfway: the state they leave, either way, satisfies `P`. `MeetsAt`
is the general form, a postcondition of the result and the state.
-/

namespace Python

/-- The code of a method on an object with state `σ`. -/
def Method (σ α : Type) := σ → Except Error α × σ

namespace Method

variable {σ α β : Type}

instance : Monad (Method σ) where
  pure a s := (.ok a, s)
  bind m f s :=
    match m s with
    | (.ok a, t) => f a t
    | (.error e, t) => (.error e, t)

def raise (error : Error) : Method σ α := fun s => (.error error, s)

/-- An expression that may raise and assigns nothing. -/
def check (x : Except Error α) : Method σ α := fun s => (x, s)

def read (f : σ → α) : Method σ α := fun s => (.ok (f s), s)

/-- An assignment to fields of the object. -/
def assign (f : σ → σ) : Method σ Unit := fun s => (.ok (), f s)

/-- A call of a method of the object that an attribute holds. -/
def onAttribute (get : σ → β) (put : β → σ → σ) (m : Method β α) : Method σ α := fun s =>
  ((m (get s)).1, put (m (get s)).2 s)

/-- `try: ... except BaseException as error: raise f(error)`. -/
def mapError (f : Error → Error) (m : Method σ α) : Method σ α := fun s =>
  match m s with
  | (.ok a, t) => (.ok a, t)
  | (.error e, t) => (.error (f e), t)

/-- `tuple(f(value) for value in values)`. -/
def collect (f : α → Method σ β) : List α → Method σ (List β)
  | [] => pure []
  | value :: rest => do
    let head ← f value
    let tail ← collect f rest
    pure (head :: tail)

def onlyIf (condition : σ → Bool) (m : Method σ Unit) : Method σ Unit := fun s =>
  if condition s then m s else (.ok (), s)

/-! ## Statements -/

variable {m : Method σ α} {t : σ} {a : α} {e : Error}

theorem bind_apply_ok {f : α → Method σ β} {s : σ} (h : m s = (.ok a, t)) :
    (m >>= f) s = f a t := by
  show (match m s with | (.ok a, t) => f a t | (.error e, t) => (.error e, t)) = _
  rw [h]

theorem bind_apply_error {f : α → Method σ β} {s : σ} (h : m s = (.error e, t)) :
    (m >>= f) s = (.error e, t) := by
  show (match m s with | (.ok a, t) => f a t | (.error e, t) => (.error e, t)) = _
  rw [h]

@[simp] theorem pure_apply (a : α) (s : σ) : (pure a : Method σ α) s = (.ok a, s) := rfl

@[simp] theorem raise_apply (e : Error) (s : σ) : (raise e : Method σ α) s = (.error e, s) := rfl

@[simp] theorem read_bind (g : σ → α) (f : α → Method σ β) (s : σ) :
    (read g >>= f) s = f (g s) s := rfl

@[simp] theorem assign_bind (g : σ → σ) (f : Unit → Method σ β) (s : σ) :
    (assign g >>= f) s = f () (g s) := rfl

theorem map_apply (f : α → β) (m : Method σ α) (s : σ) : (f <$> m) s = (f <$> (m s).1, (m s).2) := by
  change (m >>= fun a => pure (f a)) s = _
  cases hm : m s with
  | mk result t =>
    cases result with
    | error e => exact bind_apply_error hm
    | ok a => exact bind_apply_ok hm

theorem check_bind_ok {x : Except Error α} (h : x = .ok a) (f : α → Method σ β) (s : σ) :
    (check x >>= f) s = f a s := by
  rw [h]
  rfl

theorem check_bind_error {x : Except Error α} (h : x = .error e) (f : α → Method σ β) (s : σ) :
    (check x >>= f) s = (.error e, s) := by
  rw [h]
  rfl

theorem check_bind_check (x : Except Error α) (f : α → Except Error β) (s : σ) :
    (check x >>= fun a => check (f a)) s = (x >>= f, s) := by
  cases x <;> rfl

/-! ## Raising changes nothing -/

/-- The method raises and changes nothing, or returns with `R`. -/
def PerformsAt (m : Method σ α) (s : σ) (R : α → σ → Prop) : Prop :=
  match m s with
  | (.ok a, t) => R a t
  | (.error _, t) => t = s

variable {R : α → σ → Prop} {s : σ}

theorem performsAt_pure (h : R a s) : PerformsAt (pure a) s R := h

theorem performsAt_raise : PerformsAt (raise e) s R := rfl

theorem performsAt_check {x : Except Error β} {f : β → Method σ α}
    (h : ∀ b, x = .ok b → PerformsAt (f b) s R) : PerformsAt (check x >>= f) s R := by
  cases x with
  | error e => exact rfl
  | ok b => exact h b rfl

theorem performsAt_read {g : σ → β} {f : β → Method σ α} (h : PerformsAt (f (g s)) s R) :
    PerformsAt (read g >>= f) s R := h

/-- After an assignment the method has to return. -/
theorem performsAt_returns (h : m s = (.ok a, t)) (hR : R a t) : PerformsAt m s R := by
  unfold PerformsAt
  rw [h]
  exact hR

theorem PerformsAt.mono {R' : α → σ → Prop} (h : PerformsAt m s R) (hR : ∀ a t, R a t → R' a t) :
    PerformsAt m s R' := by
  unfold PerformsAt at h ⊢
  split
  · rename_i a t hm
    rw [hm] at h
    exact hR a t h
  · rename_i e t hm
    rw [hm] at h
    exact h

/-- What a call of the method says when it raises. -/
theorem PerformsAt.of_error (h : PerformsAt m s R) (hm : m s = (.error e, t)) : t = s := by
  unfold PerformsAt at h
  rw [hm] at h
  exact h

/-- What a call of the method says when it returns. -/
theorem PerformsAt.of_ok (h : PerformsAt m s R) (hm : m s = (.ok a, t)) : R a t := by
  unfold PerformsAt at h
  rw [hm] at h
  exact h

/-! ## The state a method leaves -/

/-- The method leaves a state with `P`, whether it returns or raises. -/
def LeavesAt (m : Method σ α) (s : σ) (P : σ → Prop) : Prop := P (m s).2

variable {P : σ → Prop}

theorem leavesAt_pure (h : P s) : LeavesAt (pure a) s P := h

theorem leavesAt_raise (h : P s) : LeavesAt (raise e : Method σ α) s P := h

theorem leavesAt_check {x : Except Error β} {f : β → Method σ α} (hs : P s)
    (h : ∀ b, x = .ok b → LeavesAt (f b) s P) : LeavesAt (check x >>= f) s P := by
  cases x with
  | error e => exact hs
  | ok b => exact h b rfl

theorem leavesAt_read {g : σ → β} {f : β → Method σ α} (h : LeavesAt (f (g s)) s P) :
    LeavesAt (read g >>= f) s P := h

theorem leavesAt_assign {g : σ → σ} {f : Unit → Method σ α} (h : LeavesAt (f ()) (g s) P) :
    LeavesAt (assign g >>= f) s P := h

theorem LeavesAt.mono {Q : σ → Prop} (h : LeavesAt m s P) (hPQ : ∀ t, P t → Q t) : LeavesAt m s Q :=
  hPQ _ h

/-- What a call of the method says of the state it leaves. -/
theorem LeavesAt.of_eq (h : LeavesAt m s P) {result : Except Error α} (hm : m s = (result, t)) :
    P t := by
  unfold LeavesAt at h
  rw [hm] at h
  exact h

theorem leavesAt_onAttribute {get : σ → β} {put : β → σ → σ} {m : Method β α}
    (h : LeavesAt m (get s) fun t => P (put t s)) : LeavesAt (onAttribute get put m) s P := h

/-- A call inside a method: what follows starts where the call returns, and
what the call leaves when it raises is left by the whole. -/
theorem leavesAt_bind {m : Method σ β} {f : β → Method σ α} {Q : σ → Prop} (hm : LeavesAt m s Q)
    (hraise : ∀ t, Q t → P t) (hreturn : ∀ b t, Q t → LeavesAt (f b) t P) :
    LeavesAt (m >>= f) s P := by
  unfold LeavesAt at hm ⊢
  cases hcall : m s with
  | mk result t =>
    rw [hcall] at hm
    cases result with
    | error e =>
      rw [bind_apply_error hcall]
      exact hraise t hm
    | ok b =>
      rw [bind_apply_ok hcall]
      exact hreturn b t hm

/-! ## Results and states -/

/-- What the method returns or raises, and the state it leaves, satisfy `Q`. -/
def MeetsAt (m : Method σ α) (s : σ) (Q : Except Error α → σ → Prop) : Prop := Q (m s).1 (m s).2

variable {Q : Except Error α → σ → Prop}

theorem meetsAt_pure (h : Q (.ok a) s) : MeetsAt (pure a) s Q := h

theorem meetsAt_check {x : Except Error α} (h : Q x s) : MeetsAt (check x) s Q := h

/-- A statement and what follows it. -/
theorem meetsAt_bind {m : Method σ β} {f : β → Method σ α} {P : Except Error β → σ → Prop}
    (hm : MeetsAt m s P) (hraise : ∀ e t, P (.error e) t → Q (.error e) t)
    (hreturn : ∀ b t, P (.ok b) t → MeetsAt (f b) t Q) : MeetsAt (m >>= f) s Q := by
  unfold MeetsAt at hm ⊢
  cases hcall : m s with
  | mk result t =>
    rw [hcall] at hm
    cases result with
    | error e =>
      rw [bind_apply_error hcall]
      exact hraise e t hm
    | ok b =>
      rw [bind_apply_ok hcall]
      exact hreturn b t hm

theorem meetsAt_read {g : σ → β} {f : β → Method σ α} (h : MeetsAt (f (g s)) s Q) :
    MeetsAt (read g >>= f) s Q := h

theorem meetsAt_assign {g : σ → σ} {f : Unit → Method σ α} (h : MeetsAt (f ()) (g s) Q) :
    MeetsAt (assign g >>= f) s Q := h

/-- What a call of the method says of its result and the state it leaves. -/
theorem MeetsAt.of_eq (h : MeetsAt m s Q) {result : Except Error α} (hm : m s = (result, t)) :
    Q result t := by
  unfold MeetsAt at h
  rw [hm] at h
  exact h

/-- A call whose error is replaced. -/
theorem meetsAt_mapError {f : Error → Error}
    (h : MeetsAt m s fun result t => Q (result.mapError f) t) : MeetsAt (mapError f m) s Q := by
  unfold MeetsAt mapError at *
  cases hm : m s with
  | mk result t =>
    rw [hm] at h
    cases result with
    | ok a => exact h
    | error e => exact h

/-- A statement that is executed only when its condition holds. -/
theorem meetsAt_onlyIf {condition : σ → Bool} {m : Method σ Unit}
    {Q : Except Error Unit → σ → Prop} {s : σ} (hrun : condition s = true → MeetsAt m s Q)
    (hskip : condition s = false → Q (.ok ()) s) : MeetsAt (onlyIf condition m) s Q := by
  unfold MeetsAt onlyIf
  cases h : condition s with
  | true =>
    rw [if_pos rfl]
    exact hrun h
  | false =>
    rw [if_neg (by decide)]
    exact hskip h

/-- A loop keeps `I`, of the values behind it, and what it leaves when a call raises
is left by the whole. -/
theorem meetsAt_collect {f : α → Method σ β} {I : List α → List β → σ → Prop}
    {E : Error → σ → Prop} {values : List α} (behind : List α) (results : List β) {s : σ}
    (hstart : I behind results s)
    (hstep : ∀ behind results value s, I behind results s → MeetsAt (f value) s fun result t =>
      (∀ b, result = .ok b → I (behind ++ [value]) (results ++ [b]) t) ∧
        ∀ e, result = .error e → E e t) :
    MeetsAt (collect f values) s fun result t =>
      (∀ more, result = .ok more → I (behind ++ values) (results ++ more) t) ∧
        ∀ e, result = .error e → E e t := by
  induction values generalizing behind results s with
  | nil =>
    refine ⟨?_, nofun⟩
    rintro more ⟨⟩
    rw [List.append_nil, List.append_nil]
    exact hstart
  | cons value rest ih =>
    refine meetsAt_bind (hstep behind results value s hstart) ?_ ?_
    · rintro e t ⟨-, herror⟩
      exact ⟨nofun, fun e' he => herror e' (by cases he; rfl)⟩
    · rintro b t ⟨hreturn, -⟩
      refine meetsAt_bind (ih _ _ (hreturn b rfl)) ?_ ?_
      · rintro e t ⟨-, herror⟩
        exact ⟨nofun, fun e' he => herror e' (by cases he; rfl)⟩
      · rintro more t ⟨htail, -⟩
        refine ⟨?_, nofun⟩
        rintro _ ⟨⟩
        have hall := htail more rfl
        rw [List.append_assoc, List.append_assoc] at hall
        exact hall

/-- A check and what follows it. -/
theorem meetsAt_check_bind {x : Except Error β} {f : β → Method σ α}
    (hraise : ∀ e, x = .error e → Q (.error e) s)
    (hreturn : ∀ b, x = .ok b → MeetsAt (f b) s Q) : MeetsAt (check x >>= f) s Q := by
  cases x with
  | error e => exact hraise e rfl
  | ok b => exact hreturn b rfl

theorem MeetsAt.mono {Q' : Except Error α → σ → Prop} (h : MeetsAt m s Q)
    (hQ : ∀ result t, Q result t → Q' result t) : MeetsAt m s Q' :=
  hQ _ _ h

end Method

end Python

import LightConeSpec.Lib.Machine

/-!
# Programs that run among others

A program is a tree of effects. Between two effects other parties may change
the state, and every effect is answered by an environment that the program
does not control; so a program is run by a machine whose inputs choose what
happens next. A `while` loop is a body that returns either the next loop state
or the result, and the machine loads the body again.

`wp` is the weakest precondition under a `Contract`: what interference can do
(`rely`), which answers are assumed (`allowed`) and what each performed effect
must satisfy (`safe`). The rules:

* `wp_bind`, `wp_attempt`, `wp_perform`: by the shape of the program;
* `wp_of_all`: a program whose effects all keep an invariant keeps it;
* `run_safe`: from the body of the loop to every run of the machine.
-/

namespace Program

open Machine

/-- A program with effects `E`, replies `R` and errors `ε`. -/
inductive Prog (E : Type) (R : E → Type) (ε α : Type)
  | ret (a : α)
  | throw (e : ε)
  | vis (e : E) (k : R e → Prog E R ε α)

variable {E : Type} {R : E → Type} {ε α β : Type}

variable {p : Prog E R ε α}

namespace Prog

/-- Sequencing; an error skips the rest. -/
def bind : Prog E R ε α → (α → Prog E R ε β) → Prog E R ε β
  | .ret a, f => f a
  | .throw e, _ => .throw e
  | .vis e k, f => .vis e fun r => (k r).bind f

instance : Monad (Prog E R ε) where
  pure := .ret
  bind := bind

/-- One effect. -/
def perform (e : E) : Prog E R ε (R e) := .vis e .ret

/-- A computation that is over, or raised. -/
def ofExcept : Except ε α → Prog E R ε α
  | .ok a => .ret a
  | .error e => .throw e

/-- `try: p`, with the errors that `caught` names as a result. -/
def attempt (caught : ε → Bool) : Prog E R ε α → Prog E R ε (Except ε α)
  | .ret a => .ret (.ok a)
  | .throw e => if caught e then .ret (.error e) else .throw e
  | .vis e k => .vis e fun r => (k r).attempt caught

/-- `try: p` with a handler that runs and raises again. -/
def onError (p : Prog E R ε α) (handler : ε → Prog E R ε Unit) : Prog E R ε α :=
  (p.attempt fun _ => true).bind fun
    | .ok a => .ret a
    | .error e => (handler e).bind fun _ => .throw e

/-- `for value in values: f(value)`. -/
def forEach {γ : Type} (f : γ → Prog E R ε Unit) : List γ → Prog E R ε Unit
  | [] => .ret ()
  | value :: rest => (f value).bind fun _ => forEach f rest

/-- The same loop, extending a list of results. -/
def collect {γ : Type} (f : γ → Prog E R ε (List α)) : List γ → Prog E R ε (List α)
  | [] => .ret []
  | value :: rest => (f value).bind fun head =>
    (collect f rest).bind fun tail => .ret (head ++ tail)

/-! ## Every effect of a program -/

/-- Every effect that the program can perform, whatever the replies, satisfies `P`. -/
def All (P : E → Prop) : Prog E R ε α → Prop
  | .ret _ => True
  | .throw _ => True
  | .vis e k => P e ∧ ∀ r, (k r).All P

variable {P P' : E → Prop}

@[simp] theorem all_ret (a : α) : (Prog.ret a : Prog E R ε α).All P := trivial

@[simp] theorem all_throw (e : ε) : (Prog.throw e : Prog E R ε α).All P := trivial

@[simp] theorem all_vis {e : E} {k : R e → Prog E R ε α} :
    (Prog.vis e k).All P ↔ P e ∧ ∀ r, (k r).All P := Iff.rfl

@[simp] theorem all_perform {e : E} : (perform e : Prog E R ε (R e)).All P ↔ P e := by
  simp [perform]

@[simp] theorem all_ofExcept (x : Except ε α) : (ofExcept x : Prog E R ε α).All P := by
  cases x <;> exact trivial

theorem All.mono (h : p.All P) (hP : ∀ e, P e → P' e) : p.All P' := by
  induction p with
  | ret => trivial
  | throw => trivial
  | vis e k ih => exact ⟨hP e h.1, fun r => ih r (h.2 r)⟩

theorem All.bind {f : α → Prog E R ε β} (hp : p.All P) (hf : ∀ a, (f a).All P) :
    (p.bind f).All P := by
  induction p with
  | ret a => exact hf a
  | throw => trivial
  | vis e k ih => exact ⟨hp.1, fun r => ih r (hp.2 r)⟩

theorem All.attempt {caught : ε → Bool} (hp : p.All P) : (p.attempt caught).All P := by
  induction p with
  | ret => trivial
  | throw e =>
    unfold Prog.attempt
    split <;> trivial
  | vis e k ih => exact ⟨hp.1, fun r => ih r (hp.2 r)⟩

theorem All.onError {handler : ε → Prog E R ε Unit} (hp : p.All P)
    (hhandler : ∀ e, (handler e).All P) : (p.onError handler).All P := by
  refine hp.attempt.bind fun result => ?_
  cases result with
  | ok a => trivial
  | error e => exact (hhandler e).bind fun _ => trivial

theorem All.forEach {γ : Type} {f : γ → Prog E R ε Unit} {values : List γ}
    (hf : ∀ value ∈ values, (f value).All P) : (Prog.forEach f values).All P := by
  induction values with
  | nil => trivial
  | cons value rest ih =>
    exact (hf value (by simp)).bind fun _ => ih fun v hv => hf v (by simp [hv])

theorem All.collect {γ : Type} {f : γ → Prog E R ε (List α)} {values : List γ}
    (hf : ∀ value ∈ values, (f value).All P) : (Prog.collect f values).All P := by
  induction values with
  | nil => trivial
  | cons value rest ih =>
    refine (hf value (by simp)).bind fun head => ?_
    exact (ih fun v hv => hf v (by simp [hv])).bind fun tail => trivial

end Prog

/-! ## Weakest preconditions -/

/-- What a program may rely on and what it owes. -/
structure Contract (E σ Ω : Type) where
  /-- What others do between two effects. -/
  rely : σ → σ → Prop
  rely_refl : ∀ s, rely s s
  rely_trans : ∀ s t u, rely s t → rely t u → rely s u
  /-- The answers that are assumed. -/
  allowed : σ → Ω → E → Prop
  /-- What holds when an effect is performed. -/
  safe : σ → Ω → E → Prop

variable {σ Ω : Type} (handle : σ → Ω → (e : E) → R e × σ) (C : Contract E σ Ω)

/-- Every effect that `p` performs from `s` is safe, `Q` holds if it returns
and `X` if it raises. -/
def wp (Q : α → σ → Prop) (X : ε → σ → Prop) : Prog E R ε α → σ → Prop
  | .ret a, s => ∀ t, C.rely s t → Q a t
  | .throw e, s => ∀ t, C.rely s t → X e t
  | .vis e k, s => ∀ t, C.rely s t → ∀ ω, C.allowed t ω e →
      C.safe t ω e ∧ wp Q X (k (handle t ω e).1) (handle t ω e).2

variable {handle C} {Q Q' : α → σ → Prop} {X X' : ε → σ → Prop}

/-- Interference before a program is part of what it tolerates. -/
theorem wp_rely {s t : σ} (h : wp handle C Q X p s) (hrely : C.rely s t) : wp handle C Q X p t := by
  cases p with
  | ret a => exact fun u hu => h u (C.rely_trans _ _ _ hrely hu)
  | throw e => exact fun u hu => h u (C.rely_trans _ _ _ hrely hu)
  | vis e k => exact fun u hu => h u (C.rely_trans _ _ _ hrely hu)

theorem wp_mono {s : σ} (h : wp handle C Q X p s) (hQ : ∀ a t, Q a t → Q' a t)
    (hX : ∀ e t, X e t → X' e t) : wp handle C Q' X' p s := by
  induction p generalizing s with
  | ret a => exact fun t ht => hQ a t (h t ht)
  | throw e => exact fun t ht => hX e t (h t ht)
  | vis e k ih =>
    intro t ht ω hω
    obtain ⟨hsafe, hk⟩ := h t ht ω hω
    exact ⟨hsafe, ih _ hk⟩

theorem wp_bind {f : α → Prog E R ε β} {Q : β → σ → Prop} {s : σ}
    (h : wp handle C (fun a t => wp handle C Q X (f a) t) X p s) :
    wp handle C Q X (p.bind f) s := by
  induction p generalizing s with
  | ret a => exact h s (C.rely_refl s)
  | throw e => exact h
  | vis e k ih =>
    intro t ht ω hω
    obtain ⟨hsafe, hk⟩ := h t ht ω hω
    exact ⟨hsafe, ih _ hk⟩

theorem wp_attempt {caught : ε → Bool} {Q : Except ε α → σ → Prop} {s : σ}
    (h : wp handle C (fun a t => Q (.ok a) t)
      (fun e t => if caught e = true then Q (.error e) t else X e t) p s) :
    wp handle C Q X (p.attempt caught) s := by
  induction p generalizing s with
  | ret a => exact h
  | throw e =>
    unfold Prog.attempt
    split
    · rename_i hcaught
      intro t ht
      simpa [hcaught] using h t ht
    · rename_i hcaught
      intro t ht
      simpa [hcaught] using h t ht
  | vis e k ih =>
    intro t ht ω hω
    obtain ⟨hsafe, hk⟩ := h t ht ω hω
    exact ⟨hsafe, ih _ hk⟩

theorem wp_onError {handler : ε → Prog E R ε Unit} {s : σ}
    (h : wp handle C Q (fun e t => wp handle C (fun _ => X e) X (handler e) t) p s)
    (hQ : ∀ a t u, Q a t → C.rely t u → Q a u) (hX : ∀ e t u, X e t → C.rely t u → X e u) :
    wp handle C Q X (p.onError handler) s := by
  refine wp_bind (wp_attempt (wp_mono h ?_ ?_))
  · intro a t ha u hu
    exact hQ a t u ha hu
  · intro e t he
    refine wp_bind (wp_mono he ?_ fun _ _ h => h)
    intro _ t ht u hu
    exact hX e t u ht hu

/-- A program whose effects all keep `I` keeps it. -/
theorem wp_of_all {P : E → Prop} {I : σ → Prop} (hrely : ∀ s t, I s → C.rely s t → I t)
    (hstep : ∀ s ω e, P e → I s → C.allowed s ω e → C.safe s ω e ∧ I (handle s ω e).2)
    (hp : p.All P) {s : σ} (hs : I s) : wp handle C (fun _ => I) (fun _ => I) p s := by
  induction p generalizing s with
  | ret a => exact fun t ht => hrely s t hs ht
  | throw e => exact fun t ht => hrely s t hs ht
  | vis e k ih =>
    intro t ht ω hω
    obtain ⟨hsafe, hI⟩ := hstep t ω e hp.1 (hrely s t hs ht) hω
    exact ⟨hsafe, ih _ (hp.2 _) hI⟩

/-! ## Running a program -/

/-- What happens next: a run of the loop begins, somebody else acts, or the
program performs its next effect with a chosen answer. -/
inductive Input (Ω φ : Type)
  | begin
  | interfere (i : φ)
  | resume (ω : Ω)

/-- The state and the rest of the running program, if one is running. -/
structure Process (E : Type) (R : E → Type) (ε σ κ β : Type) where
  state : σ
  code : Option (Prog E R ε (κ ⊕ β))

variable {κ φ : Type}

def Process.next (q : Process E R ε σ κ β) : Option E :=
  match q.code with
  | some (.vis e _) => some e
  | _ => none

/-- One step: its output is the effect that was performed. -/
def step (handle : σ → Ω → (e : E) → R e × σ) (foreign : σ → φ → σ)
    (body : κ → Prog E R ε (κ ⊕ β)) (start : κ) (q : Process E R ε σ κ β) :
    Input Ω φ → Option E × Process E R ε σ κ β
  | .begin =>
    match q.code with
    | none => (none, ⟨q.state, some (body start)⟩)
    | some _ => (none, q)
  | .interfere i => (none, ⟨foreign q.state i, q.code⟩)
  | .resume ω =>
    match q.code with
    | none => (none, q)
    | some (.ret (.inl c)) => (none, ⟨q.state, some (body c)⟩)
    | some (.ret (.inr _)) => (none, ⟨q.state, none⟩)
    | some (.throw _) => (none, ⟨q.state, none⟩)
    | some (.vis e k) => (some e, ⟨(handle q.state ω e).2, some (k (handle q.state ω e).1)⟩)

/-- The inputs of a run respect the contract: interference is relied on and
answers are allowed. -/
def Respects (C : Contract E σ Ω) (foreign : σ → φ → σ) (q : Process E R ε σ κ β) :
    Input Ω φ → Prop
  | .begin => True
  | .interfere i => C.rely q.state (foreign q.state i)
  | .resume ω => ∀ e, q.next = some e → C.allowed q.state ω e

/-- The postcondition of a round: the loop invariant, or `idle` at its end. -/
def Outcome (idle : σ → Prop) (loop : κ → σ → Prop) : κ ⊕ β → σ → Prop
  | .inl c, s => loop c s
  | .inr _, s => idle s

/-- `idle` holds between two runs of the loop, and a running program meets its
contract. -/
def Meets (handle : σ → Ω → (e : E) → R e × σ) (C : Contract E σ Ω) (idle : σ → Prop)
    (loop : κ → σ → Prop) (q : Process E R ε σ κ β) : Prop :=
  match q.code with
  | none => idle q.state
  | some p => wp handle C (Outcome idle loop) (fun _ => idle) p q.state

variable {foreign : σ → φ → σ} {body : κ → Prog E R ε (κ ⊕ β)} {start : κ} {idle : σ → Prop}
  {loop : κ → σ → Prop} {q : Process E R ε σ κ β} {inputs : List (Input Ω φ)}

/-- What the body of a loop must satisfy. -/
structure LoopInvariant (handle : σ → Ω → (e : E) → R e × σ) (C : Contract E σ Ω)
    (body : κ → Prog E R ε (κ ⊕ β)) (start : κ) (idle : σ → Prop) (loop : κ → σ → Prop) :
    Prop where
  idle_rely : ∀ s t, idle s → C.rely s t → idle t
  loop_start : ∀ s, idle s → loop start s
  loop_body : ∀ c s, loop c s → wp handle C (Outcome idle loop) (fun _ => idle) (body c) s

theorem meets_step (h : LoopInvariant handle C body start idle loop)
    (q : Process E R ε σ κ β) (i : Input Ω φ) (hq : Meets handle C idle loop q)
    (hi : Respects C foreign q i) :
    Meets handle C idle loop (step handle foreign body start q i).2 := by
  obtain ⟨s, code⟩ := q
  cases i with
  | begin =>
    cases code with
    | none => exact h.loop_body start s (h.loop_start s hq)
    | some p => exact hq
  | interfere i =>
    cases code with
    | none => exact h.idle_rely _ _ hq hi
    | some p => exact wp_rely hq hi
  | resume ω =>
    cases code with
    | none => exact hq
    | some p =>
      cases p with
      | ret r =>
        cases r with
        | inl c => exact h.loop_body c s (hq s (C.rely_refl s))
        | inr b => exact hq s (C.rely_refl s)
      | throw e => exact hq s (C.rely_refl s)
      | vis e k => exact (hq s (C.rely_refl s) ω (hi e rfl)).2

/-- A step with an output is the effect that was next. -/
theorem step_output {i : Input Ω φ} {e : E}
    (h : (step handle foreign body start q i).1 = some e) : ∃ ω, i = .resume ω ∧ q.next = some e ∧
      (step handle foreign body start q i).2.state = (handle q.state ω e).2 := by
  obtain ⟨s, code⟩ := q
  cases i with
  | begin => cases code <;> cases h
  | interfere i => cases h
  | resume ω =>
    cases code with
    | none => cases h
    | some p =>
      cases p with
      | ret r => cases r <;> cases h
      | throw e => cases h
      | vis e' k =>
        cases h
        exact ⟨ω, rfl, rfl, rfl⟩

/-- A step without an output changes the state only by interference. -/
theorem step_silent {i : Input Ω φ} (h : (step handle foreign body start q i).1 = none) :
    (step handle foreign body start q i).2.state = q.state ∨ ∃ j, i = .interfere j ∧
      (step handle foreign body start q i).2.state = foreign q.state j := by
  obtain ⟨s, code⟩ := q
  cases i with
  | begin => cases code <;> exact .inl rfl
  | interfere j => exact .inr ⟨j, rfl, rfl⟩
  | resume ω =>
    cases code with
    | none => exact .inl rfl
    | some p =>
      cases p with
      | ret r => cases r <;> exact .inl rfl
      | throw e => exact .inl rfl
      | vis e' k => cases h

/-- What every effect and every foreign action keep holds along every run. -/
theorem state_invariant {I : σ → Prop} (hhandle : ∀ s ω e, I s → I (handle s ω e).2)
    (hforeign : ∀ s i, I s → I (foreign s i)) (hq : I q.state) :
    (∀ ev ∈ trace (step handle foreign body start) q inputs, I ev.pre.state ∧ I ev.post.state) ∧
      I (final (step handle foreign body start) q inputs).state := by
  have hstep : ∀ (q : Process E R ε σ κ β) (i : Input Ω φ), I q.state → True →
      I (step handle foreign body start q i).2.state := by
    intro q i hI _
    cases hout : (step handle foreign body start q i).1 with
    | none =>
      rcases step_silent hout with hsame | ⟨j, _, hj⟩
      · rw [hsame]
        exact hI
      · rw [hj]
        exact hforeign q.state j hI
    | some e =>
      obtain ⟨ω, _, _, hstate⟩ := step_output hout
      rw [hstate]
      exact hhandle q.state ω e hI
  exact trace_invariant hstep hq fun _ _ => trivial

/-- A process that meets the contract performs safe effects only. -/
theorem meets_safe (hq : Meets handle C idle loop q) {ω : Ω} {e : E}
    (hnext : q.next = some e) (hallowed : C.allowed q.state ω e) : C.safe q.state ω e := by
  obtain ⟨s, code⟩ := q
  match code, hnext with
  | some (.vis e k), rfl => exact (hq _ (C.rely_refl _) ω hallowed).1

/-- In every run that respects the contract every performed effect is safe and
every process along the run meets the contract. -/
theorem run_safe (h : LoopInvariant handle C body start idle loop) (hq : Meets handle C idle loop q)
    (hrun : ∀ ev ∈ trace (step handle foreign body start) q inputs,
      Respects C foreign ev.pre ev.input) :
    (∀ ev ∈ trace (step handle foreign body start) q inputs, Meets handle C idle loop ev.post ∧
      ∀ ω e, ev.input = .resume ω → ev.pre.next = some e → C.safe ev.pre.state ω e) ∧
      Meets handle C idle loop (final (step handle foreign body start) q inputs) := by
  obtain ⟨hall, hfinal⟩ := trace_invariant (meets_step h) hq hrun
  refine ⟨fun ev hev => ⟨(hall ev hev).2, ?_⟩, hfinal⟩
  intro ω e hinput hnext
  have hallowed := hrun ev hev
  rw [hinput] at hallowed
  exact meets_safe (hall ev hev).1 hnext (hallowed e hnext)

/-- In such a run, what safe effects and interference keep holds in every
state. -/
theorem run_invariant (h : LoopInvariant handle C body start idle loop) {I : σ → Prop}
    (hhandle : ∀ s ω e, C.safe s ω e → I s → I (handle s ω e).2)
    (hforeign : ∀ s i, C.rely s (foreign s i) → I s → I (foreign s i))
    (hq : Meets handle C idle loop q) (hI : I q.state)
    (hrun : ∀ ev ∈ trace (step handle foreign body start) q inputs,
      Respects C foreign ev.pre ev.input) : ∀ ev ∈ trace (step handle foreign body start) q inputs,
      I ev.pre.state ∧ I ev.post.state := by
  have hstep : ∀ (q : Process E R ε σ κ β) (i : Input Ω φ),
      Meets handle C idle loop q ∧ I q.state → Respects C foreign q i →
      Meets handle C idle loop (step handle foreign body start q i).2 ∧
        I (step handle foreign body start q i).2.state := by
    rintro q i ⟨hq, hI⟩ hi
    refine ⟨meets_step h q i hq hi, ?_⟩
    cases hout : (step handle foreign body start q i).1 with
    | none =>
      rcases step_silent hout with hsame | ⟨j, rfl, hj⟩
      · rw [hsame]
        exact hI
      · rw [hj]
        exact hforeign q.state j hi hI
    | some e =>
      obtain ⟨ω, rfl, hnext, hstate⟩ := step_output hout
      rw [hstate]
      exact hhandle q.state ω e (meets_safe hq hnext (hi e hnext)) hI
  intro ev hev
  obtain ⟨hpre, hpost⟩ := (trace_invariant hstep ⟨hq, hI⟩ hrun).1 ev hev
  exact ⟨hpre.2, hpost.2⟩

end Program

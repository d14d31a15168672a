import Mathlib.Logic.Function.Basic
import LightConeSpec.Lib.Program

/-!
# Processes that may be killed

Calls of one interface run as processes over a shared state. A scheduler picks the
process that performs its next effect, and may kill a process between any two
effects: what it has done stays, and the rest of its program is lost.

`run_cooperates` is the rule for whole runs. Every call is verified on its own with
`wp`, under a contract that tolerates the effects of the other processes
(`Cooperates`). Then the invariant holds in every state of a run, every effect is
safe, and every returned value satisfies the postcondition of its call.

Calls that never overlap are the case of one process, with `Contract.alone`. `exec` runs
one of them to its end.
-/

namespace Program

open Machine

/-- The shared state, and the call that each process runs with the rest of its
program. -/
structure Processes (P A E : Type) (R : E → Type) (ε α σ : Type) where
  state : σ
  running : P → Option (A × Prog E R ε α)

/-- What the scheduler does next. -/
inductive Move (P A Ω : Type)
  | start (p : P) (call : A)
  | resume (p : P) (ω : Ω)
  | kill (p : P)

/-- What a move shows. -/
inductive Report (P A E ε α : Type)
  | quiet
  | performed (p : P) (call : A) (effect : E)
  | returned (p : P) (call : A) (value : α)
  | raised (p : P) (call : A) (error : ε)

section

variable {P A E : Type} [DecidableEq P] {R : E → Type} {ε α σ Ω : Type}

variable {p : P} {move : Move P A Ω}

namespace Processes

/-- The process runs this call, or none. -/
def put (w : Processes P A E R ε α σ) (p : P) (state : σ) (next : Option (A × Prog E R ε α)) :
    Processes P A E R ε α σ :=
  ⟨state, Function.update w.running p next⟩

@[simp] theorem state_put (w : Processes P A E R ε α σ) (p : P) (state : σ)
    (next : Option (A × Prog E R ε α)) : (w.put p state next).state = state := rfl

@[simp] theorem running_put_self (w : Processes P A E R ε α σ) (p : P) (state : σ)
    (next : Option (A × Prog E R ε α)) : (w.put p state next).running p = next :=
  Function.update_self ..

theorem running_put_of_ne (w : Processes P A E R ε α σ) {q : P} (h : q ≠ p) (state : σ)
    (next : Option (A × Prog E R ε α)) : (w.put p state next).running q = w.running q :=
  Function.update_of_ne h ..

end Processes

/-- One move. -/
def schedule (handle : σ → Ω → (e : E) → R e × σ) (body : A → Prog E R ε α)
    (w : Processes P A E R ε α σ) : Move P A Ω → Report P A E ε α × Processes P A E R ε α σ
  | .start p call =>
    match w.running p with
    | none => (.quiet, w.put p w.state (some (call, body call)))
    | some _ => (.quiet, w)
  | .resume p ω =>
    match w.running p with
    | none => (.quiet, w)
    | some (call, .ret value) => (.returned p call value, w.put p w.state none)
    | some (call, .throw error) => (.raised p call error, w.put p w.state none)
    | some (call, .vis e k) =>
      (.performed p call e,
        w.put p (handle w.state ω e).2 (some (call, k (handle w.state ω e).1)))
  | .kill p => (.quiet, w.put p w.state none)

/-! ## The rule -/

/-- What is assumed of the calls and of the answers: a call is `admitted` when it
starts, the answers are allowed, and a process is killed only in a state that is
`ready` for its next call. -/
def Admissible (C : P → A → Contract E σ Ω) (ready : P → σ → Prop) (admitted : P → A → σ → Prop)
    (w : Processes P A E R ε α σ) : Move P A Ω → Prop
  | .start p call => w.running p = none → admitted p call w.state
  | .resume p ω => ∀ call e k, w.running p = some (call, .vis e k) →
      (C p call).allowed w.state ω e
  | .kill p => ready p w.state

/-- The calls are verified, each under its contract, and tolerate each other. -/
structure Cooperates (handle : σ → Ω → (e : E) → R e × σ) (body : A → Prog E R ε α)
    (C : P → A → Contract E σ Ω) (I : σ → Prop) (ready : P → σ → Prop)
    (admitted : P → A → σ → Prop) (Q : P → A → α → σ → Prop) (X : P → A → ε → σ → Prop) :
    Prop where
  keeps : ∀ p a s ω e, I s → (C p a).safe s ω e → I (handle s ω e).2
  relied : ∀ p a q b s ω e, q ≠ p → I s → (C p a).safe s ω e →
    (C q b).rely s (handle s ω e).2
  stays_ready : ∀ p a q s ω e, q ≠ p → I s → (C p a).safe s ω e → ready q s →
    ready q (handle s ω e).2
  verified : ∀ p a s, I s → ready p s → admitted p a s →
    wp handle (C p a) (Q p a) (X p a) (body a) s
  returned : ∀ p a v s, I s → Q p a v s → ready p s
  raised : ∀ p a e s, I s → X p a e s → ready p s

/-- The invariant holds, idle processes are ready, and the others meet their
contracts. -/
structure Coherent (handle : σ → Ω → (e : E) → R e × σ) (C : P → A → Contract E σ Ω)
    (I : σ → Prop) (ready : P → σ → Prop) (Q : P → A → α → σ → Prop)
    (X : P → A → ε → σ → Prop) (w : Processes P A E R ε α σ) : Prop where
  invariant : I w.state
  idle : ∀ p, w.running p = none → ready p w.state
  busy : ∀ p a code, w.running p = some (a, code) →
    wp handle (C p a) (Q p a) (X p a) code w.state

/-- What a move of a verified system shows: a safe effect, or a result with its
postcondition. -/
def Promised (C : P → A → Contract E σ Ω) (Q : P → A → α → σ → Prop) (X : P → A → ε → σ → Prop)
    (s : σ) : Move P A Ω → Report P A E ε α → Prop
  | .resume _ ω, .performed p a e => (C p a).safe s ω e
  | _, .performed _ _ _ => False
  | _, .returned p a v => Q p a v s
  | _, .raised p a e => X p a e s
  | _, .quiet => True

variable {handle : σ → Ω → (e : E) → R e × σ} {body : A → Prog E R ε α}
  {C : P → A → Contract E σ Ω} {I : σ → Prop} {ready : P → σ → Prop}
  {admitted : P → A → σ → Prop} {Q : P → A → α → σ → Prop} {X : P → A → ε → σ → Prop}
  {w : Processes P A E R ε α σ}

omit [DecidableEq P] in
theorem Promised.performed {s : σ} {a : A} {e : E} (h : Promised C Q X s move (.performed p a e)) :
    ∃ ω, (C p a).safe s ω e := by
  cases move with
  | start q call => exact h.elim
  | kill q => exact h.elim
  | resume q ω => exact ⟨ω, h⟩

omit [DecidableEq P] in
theorem Promised.returned {s : σ} {a : A} {v : α}
    (h : Promised (E := E) C Q X s move (.returned p a v)) : Q p a v s := by
  cases move <;> exact h

omit [DecidableEq P] in
theorem Promised.raised {s : σ} {a : A} {e : ε}
    (h : Promised (E := E) C Q X s move (.raised p a e)) : X p a e s := by
  cases move <;> exact h

/-- A move shows the effect that it performs, or it leaves the state alone. -/
theorem state_schedule (w : Processes P A E R ε α σ) (move : Move P A Ω) :
    ((schedule handle body w move).2.state = w.state ∧
      ∀ p call e, (schedule handle body w move).1 ≠ .performed p call e) ∨
    ∃ p call e ω, move = .resume p ω ∧ (schedule handle body w move).1 = .performed p call e ∧
      (schedule handle body w move).2.state = (handle w.state ω e).2 := by
  cases move with
  | start p call =>
    refine .inl ?_
    rcases hp : w.running p with _ | activity
    · simp only [schedule, hp, Processes.state_put, true_and]
      exact nofun
    · simp only [schedule, hp, true_and]
      exact nofun
  | kill p => exact .inl ⟨rfl, nofun⟩
  | resume p ω =>
    rcases hp : w.running p with _ | ⟨call, code⟩
    · simp only [schedule, hp, true_and]
      exact .inl nofun
    · cases code with
      | ret value =>
        simp only [schedule, hp]
        exact .inl ⟨rfl, nofun⟩
      | throw error =>
        simp only [schedule, hp]
        exact .inl ⟨rfl, nofun⟩
      | vis e k =>
        simp only [schedule, hp]
        exact .inr ⟨p, call, e, ω, rfl, rfl, rfl⟩

/-- A call that returns leaves the state alone. -/
theorem state_schedule_of_returned {call : A} {value : α}
    (h : (schedule handle body w move).1 = .returned p call value) :
    (schedule handle body w move).2.state = w.state := by
  rcases state_schedule w move with ⟨hstate, -⟩ | ⟨_, _, _, _, -, hperformed, -⟩
  · exact hstate
  · cases hperformed.symm.trans h

/-- A process stops, in a state that is ready for its next call. -/
theorem Coherent.stop (hw : Coherent handle C I ready Q X w) (hready : ready p w.state) :
    Coherent handle C I ready Q X (w.put p w.state none) := by
  refine ⟨hw.invariant, ?_, ?_⟩
  · intro q hq
    rcases eq_or_ne q p with rfl | hne
    · exact hready
    · rw [w.running_put_of_ne hne] at hq
      exact hw.idle q hq
  · intro q a code hq
    rcases eq_or_ne q p with rfl | hne
    · rw [w.running_put_self] at hq
      cases hq
    · rw [w.running_put_of_ne hne] at hq
      exact hw.busy q a code hq

/-- One move keeps the system coherent and shows what was promised. -/
theorem coherent_schedule (h : Cooperates handle body C I ready admitted Q X)
    (hw : Coherent handle C I ready Q X w) (move : Move P A Ω)
    (hmove : Admissible C ready admitted w move) :
    Coherent handle C I ready Q X (schedule handle body w move).2 ∧
      Promised C Q X w.state move (schedule handle body w move).1 := by
  cases move with
  | start p call =>
    cases hp : w.running p with
    | some activity =>
      simp only [schedule, hp]
      exact ⟨hw, trivial⟩
    | none =>
      simp only [schedule, hp]
      refine ⟨⟨hw.invariant, ?_, ?_⟩, trivial⟩
      · intro q hq
        rcases eq_or_ne q p with rfl | hne
        · rw [w.running_put_self] at hq
          cases hq
        · rw [w.running_put_of_ne hne] at hq
          exact hw.idle q hq
      · intro q a code hq
        rcases eq_or_ne q p with rfl | hne
        · rw [w.running_put_self] at hq
          cases hq
          -- the started call is verified from here
          exact h.verified q call w.state hw.invariant (hw.idle q hp) (hmove hp)
        · rw [w.running_put_of_ne hne] at hq
          exact hw.busy q a code hq
  | kill p => exact ⟨hw.stop hmove, trivial⟩
  | resume p ω =>
    rcases hp : w.running p with _ | ⟨call, code⟩
    · simp only [schedule, hp]
      exact ⟨hw, trivial⟩
    · have hcode := hw.busy p call code hp
      cases code with
      | ret value =>
        simp only [schedule, hp]
        have hQ := hcode w.state ((C p call).rely_refl w.state)
        exact ⟨hw.stop (h.returned p call value w.state hw.invariant hQ), hQ⟩
      | throw error =>
        simp only [schedule, hp]
        have hX := hcode w.state ((C p call).rely_refl w.state)
        exact ⟨hw.stop (h.raised p call error w.state hw.invariant hX), hX⟩
      | vis e k =>
        simp only [schedule, hp]
        have hallowed := hmove call e k hp
        obtain ⟨hsafe, hrest⟩ := hcode w.state ((C p call).rely_refl w.state) ω hallowed
        refine ⟨⟨h.keeps p call w.state ω e hw.invariant hsafe, ?_, ?_⟩, hsafe⟩
        · intro q hq
          rcases eq_or_ne q p with rfl | hne
          · rw [Processes.running_put_self] at hq
            cases hq
          · rw [w.running_put_of_ne hne] at hq
            exact h.stays_ready p call q w.state ω e hne hw.invariant hsafe (hw.idle q hq)
        · intro q b rest hq
          rcases eq_or_ne q p with rfl | hne
          · rw [Processes.running_put_self] at hq
            cases hq
            exact hrest
          · rw [w.running_put_of_ne hne] at hq
            -- the others rely on what this effect did
            exact wp_rely (hw.busy q b rest hq)
              (h.relied p call q b w.state ω e hne hw.invariant hsafe)

/-- In every run whose moves are admissible the system stays coherent, and every
move shows what was promised. -/
theorem run_cooperates (h : Cooperates handle body C I ready admitted Q X)
    (hw : Coherent handle C I ready Q X w) {moves : List (Move P A Ω)}
    (hmoves : ∀ ev ∈ trace (schedule handle body) w moves,
      Admissible C ready admitted ev.pre ev.input) :
    ∀ ev ∈ trace (schedule handle body) w moves, Coherent handle C I ready Q X ev.pre ∧
      Coherent handle C I ready Q X ev.post ∧ Promised C Q X ev.pre.state ev.input ev.output := by
  intro ev hev
  have hstep : ∀ (w : Processes P A E R ε α σ) (move : Move P A Ω),
      Coherent handle C I ready Q X w → Admissible C ready admitted w move →
      Coherent handle C I ready Q X (schedule handle body w move).2 :=
    fun w move hw hmove => (coherent_schedule h hw move hmove).1
  have hall := (trace_invariant hstep hw hmoves).1 ev hev
  refine ⟨hall.1, hall.2, ?_⟩
  have hpromised := (coherent_schedule h hall.1 ev.input (hmoves ev hev)).2
  have hevent : ev = event (schedule handle body) ev.pre ev.input := eq_event_of_mem_trace hev
  rw [hevent]
  exact hpromised

/-! ## One process at a time -/

/-- The contract of a program that nobody disturbs. -/
def Contract.alone (allowed safe : σ → Ω → E → Prop) : Contract E σ Ω where
  rely s t := s = t
  rely_refl _ := rfl
  rely_trans _ _ _ hst htu := hst.trans htu
  allowed := allowed
  safe := safe

variable {allowed safe : σ → Ω → E → Prop} {post : α → σ → Prop} {raises : ε → σ → Prop} {s : σ}

theorem wp_alone_ret {value : α} (h : post value s) :
    wp handle (Contract.alone allowed safe) post raises (.ret value) s := by
  rintro t rfl
  exact h

theorem wp_alone_throw {error : ε} (h : raises error s) :
    wp handle (Contract.alone allowed safe) post raises (.throw error) s := by
  rintro t rfl
  exact h

theorem wp_alone_vis {e : E} {k : R e → Prog E R ε α} (h : ∀ ω, allowed s ω e → safe s ω e ∧
      wp handle (Contract.alone allowed safe) post raises (k (handle s ω e).1) (handle s ω e).2) :
    wp handle (Contract.alone allowed safe) post raises (.vis e k) s := by
  rintro t rfl ω hω
  exact h ω hω

/-- What every safe effect keeps holds when the program ends. -/
theorem wp_alone_invariant {I : σ → Prop} (hkeeps : ∀ s ω e, I s → safe s ω e → I (handle s ω e).2)
    {code : Prog E R ε α} (hs : I s) (h : wp handle (Contract.alone allowed safe) post raises code s) :
    wp handle (Contract.alone allowed safe) (fun a t => post a t ∧ I t)
      (fun e t => raises e t ∧ I t) code s := by
  induction code generalizing s with
  | ret a => exact wp_alone_ret ⟨h s rfl, hs⟩
  | throw e => exact wp_alone_throw ⟨h s rfl, hs⟩
  | vis e k ih =>
    refine wp_alone_vis fun ω hω => ?_
    rcases h s rfl ω hω with ⟨hsafe, hrest⟩
    exact ⟨hsafe, ih _ (hkeeps s ω e hs hsafe) hrest⟩

/-! ## Calls that run to the end -/

/-- A program that nobody disturbs, with a strategy that answers its effects. -/
def Prog.exec (handle : σ → Ω → (e : E) → R e × σ) (answer : σ → E → Ω) :
    Prog E R ε α → σ → Except ε α × σ
  | .ret a, s => (.ok a, s)
  | .throw e, s => (.error e, s)
  | .vis e k, s => (k (handle s (answer s e) e).1).exec handle answer (handle s (answer s e) e).2

/-- A verified program that runs to the end meets its postcondition. -/
theorem exec_of_wp {answer : σ → E → Ω} (hanswer : ∀ s e, allowed s (answer s e) e)
    {code : Prog E R ε α} (h : wp handle (Contract.alone allowed safe) post raises code s) :
    (∃ a, (code.exec handle answer s).1 = .ok a ∧ post a (code.exec handle answer s).2) ∨
      ∃ e, (code.exec handle answer s).1 = .error e ∧ raises e (code.exec handle answer s).2 := by
  induction code generalizing s with
  | ret a => exact .inl ⟨a, rfl, h s rfl⟩
  | throw e => exact .inr ⟨e, rfl, h s rfl⟩
  | vis e k ih => exact ih _ (h s rfl (answer s e) (hanswer s e)).2

end

end Program

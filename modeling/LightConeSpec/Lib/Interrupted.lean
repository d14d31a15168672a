import LightConeSpec.Lib.Processes

/-!
# Programs that are interrupted

`Prog.after` runs a program for some of its effects. What it leaves of the program is what a
crash loses, and the state is what a crash leaves.

What is left of a verified program is verified, `wp_after`. With what a contract calls `safe`,
`safe_after` says what holds at every point where a program can be interrupted.
-/

namespace Program

variable {E : Type} {R : E → Type} {ε α σ Ω : Type}

def Prog.next : Prog E R ε α → Option E
  | .vis e _ => some e
  | _ => none

/-- What is left of a program after `n` effects, and the state. A program that is over stays
so. -/
def Prog.after (handle : σ → Ω → (e : E) → R e × σ) (answer : σ → E → Ω) :
    ℕ → Prog E R ε α → σ → Prog E R ε α × σ
  | 0, code, s => (code, s)
  | _ + 1, .ret a, s => (.ret a, s)
  | _ + 1, .throw e, s => (.throw e, s)
  | n + 1, .vis e k, s =>
    (k (handle s (answer s e) e).1).after handle answer n (handle s (answer s e) e).2

variable {handle : σ → Ω → (e : E) → R e × σ} {answer : σ → E → Ω}
  {allowed safe : σ → Ω → E → Prop} {post : α → σ → Prop} {raises : ε → σ → Prop}
  {code : Prog E R ε α} {s : σ}

/-- What is left of a verified program is verified. -/
theorem wp_after (hanswer : ∀ s e, allowed s (answer s e) e)
    (h : wp handle (Contract.alone allowed safe) post raises code s) (n : ℕ) :
    wp handle (Contract.alone allowed safe) post raises (code.after handle answer n s).1
      (code.after handle answer n s).2 := by
  induction n generalizing code s with
  | zero => exact h
  | succ n ih =>
    cases code with
    | ret a => exact h
    | throw e => exact h
    | vis e k => exact ih (h s rfl (answer s e) (hanswer s e)).2

/-- A verified program that is interrupted before an effect is in a safe state for it. -/
theorem safe_after (hanswer : ∀ s e, allowed s (answer s e) e)
    (h : wp handle (Contract.alone allowed safe) post raises code s) (n : ℕ) {e : E}
    (hnext : (code.after handle answer n s).1.next = some e) :
    safe (code.after handle answer n s).2 (answer (code.after handle answer n s).2 e) e := by
  have hafter := wp_after hanswer h n
  generalize code.after handle answer n s = point at hafter hnext ⊢
  rcases point with ⟨rest, t⟩
  cases rest with
  | ret a => cases hnext
  | throw e' => cases hnext
  | vis e' k =>
    cases hnext
    exact (hafter t rfl (answer t e) (hanswer t e)).1

/-- A verified program that is over has its postcondition. -/
theorem over_after (hanswer : ∀ s e, allowed s (answer s e) e)
    (h : wp handle (Contract.alone allowed safe) post raises code s) (n : ℕ)
    (hnext : (code.after handle answer n s).1.next = none) :
    (∃ a, post a (code.after handle answer n s).2) ∨
      ∃ e, raises e (code.after handle answer n s).2 := by
  have hafter := wp_after hanswer h n
  generalize code.after handle answer n s = point at hafter hnext ⊢
  rcases point with ⟨rest, t⟩
  cases rest with
  | ret a => exact Or.inl ⟨a, hafter t rfl⟩
  | throw e => exact Or.inr ⟨e, hafter t rfl⟩
  | vis e k => cases hnext

end Program

import LightConeSpec.Lib.Raising

/-!
# Loops that may raise

`values.foldlM body s` is a loop over values that keeps a state and ends at the first exception. A
property of the state that the body keeps holds after every part of the loop, and an exception is
that of one pass of the body, after passes that returned.
-/

namespace Python

variable {σ α : Type} {body : σ → α → Except Error σ} {values : List α} {s t : σ}

theorem foldlM_nil : ([] : List α).foldlM body s = .ok s := rfl

theorem foldlM_cons {value : α} : (value :: values).foldlM body s
    = body s value >>= fun t => values.foldlM body t :=
  List.foldlM_cons

/-- A part of the loop and what follows it. -/
theorem foldlM_append_eq_ok {rest : List α} : (values ++ rest).foldlM body s = .ok t ↔
    ∃ u, values.foldlM body s = .ok u ∧ rest.foldlM body u = .ok t := by
  rw [List.foldlM_append, bind_eq_ok]

/-- After a part of the loop that returned, one pass of the body. -/
theorem foldlM_snoc_eq_ok {value : α} : (values ++ [value]).foldlM body s = .ok t ↔
    ∃ u, values.foldlM body s = .ok u ∧ body u value = .ok t := by
  rw [foldlM_append_eq_ok]
  simp only [foldlM_cons, bind_eq_ok, foldlM_nil, Except.ok.injEq, exists_eq_right]

/-- What every pass of the body keeps, the loop keeps. -/
theorem foldlM_keeps {P : σ → Prop} (h : values.foldlM body s = .ok t) (hs : P s)
    (hbody : ∀ value ∈ values, ∀ u v, P u → body u value = .ok v → P v) : P t := by
  induction values generalizing s with
  | nil =>
    rw [foldlM_nil] at h
    cases h
    exact hs
  | cons value rest ih =>
    rw [foldlM_cons, bind_eq_ok] at h
    rcases h with ⟨u, hu, hrest⟩
    have hkept := hbody value List.mem_cons_self s u hs hu
    exact ih hrest hkept fun other hother => hbody other (List.mem_cons_of_mem _ hother)

/-- The loop raises what one pass of the body raises. -/
theorem foldlM_eq_error {e : Error} : values.foldlM body s = .error e ↔
    ∃ before value after u, values = before ++ value :: after ∧
      before.foldlM body s = .ok u ∧ body u value = .error e := by
  constructor
  · intro h
    induction values generalizing s with
    | nil => cases h
    | cons value rest ih =>
      rw [foldlM_cons, bind_eq_error] at h
      rcases h with h | ⟨u, hu, h⟩
      · exact ⟨[], value, rest, s, rfl, rfl, h⟩
      · rcases ih h with ⟨before, other, after, v, hsplit, hbefore, herror⟩
        refine ⟨value :: before, other, after, v, by rw [hsplit]; rfl, ?_, herror⟩
        rw [foldlM_cons, bind_eq_ok]
        exact ⟨u, hu, hbefore⟩
  · rintro ⟨before, value, after, u, rfl, hbefore, herror⟩
    rw [List.foldlM_append, bind_eq_error]
    refine .inr ⟨u, hbefore, ?_⟩
    rw [foldlM_cons, bind_eq_error]
    exact .inl herror

/-- With an invariant, the loop raises only what the body raises where the invariant holds. -/
theorem raisesOnly_foldlM {P : σ → Prop} {Q : Error → Prop} (hs : P s)
    (hkeeps : ∀ value ∈ values, ∀ u v, P u → body u value = .ok v → P v)
    (hraises : ∀ value ∈ values, ∀ u, P u → RaisesOnly Q (body u value)) :
    RaisesOnly Q (values.foldlM body s) := by
  intro e he
  rcases foldlM_eq_error.mp he with ⟨before, value, after, u, rfl, hbefore, herror⟩
  have hu : P u := by
    refine foldlM_keeps hbefore hs fun other hother => ?_
    exact hkeeps other (List.mem_append_left _ hother)
  exact hraises value (List.mem_append_right _ List.mem_cons_self) u hu e herror

end Python

import Mathlib.Data.List.Forall2

/-!
# Computations that stop at the first failure

Readers and builders here run in `Except`: a `do` block stops at its first failing step, a
traversal (`mapM`) at its first failing element, a fold (`foldlM`) at its first failing step.
These are the laws every proof about them uses: a successful bind is a successful first step
followed by a successful rest, a successful traversal gives one result per element in order, a
successful fold keeps what each step keeps, and a failed fold failed at one step after a
successful prefix.
-/

namespace GirAda

variable {ε α β : Type}

@[simp] theorem ok_bind {a : α} {f : α → Except ε β} : (Except.ok a : Except ε α) >>= f = f a := rfl

@[simp] theorem error_bind {e : ε} {f : α → Except ε β} :
    (Except.error e : Except ε α) >>= f = .error e := rfl

theorem bind_eq_ok_iff {x : Except ε α} {f : α → Except ε β} {b : β} :
    x >>= f = .ok b ↔ ∃ a, x = .ok a ∧ f a = .ok b := by
  cases x <;> simp [bind, Except.bind]

theorem bind_eq_error_iff {x : Except ε α} {f : α → Except ε β} {e : ε} :
    x >>= f = .error e ↔ x = .error e ∨ ∃ a, x = .ok a ∧ f a = .error e := by
  cases x <;> simp [bind, Except.bind]

/-- A traversal succeeds exactly when each element gives its counterpart, in order. -/
theorem mapM_eq_ok_iff {f : α → Except ε β} {l : List α} {bs : List β} :
    l.mapM f = .ok bs ↔ List.Forall₂ (fun a b => f a = .ok b) l bs := by
  induction l generalizing bs with
  | nil => cases bs <;> simp [pure, Except.pure]
  | cons a l ih =>
    rw [List.mapM_cons]
    cases bs with
    | nil => simp [bind_eq_ok_iff, pure, Except.pure]
    | cons b bs => simp [bind_eq_ok_iff, pure, Except.pure, ← ih]

theorem mapError_eq_ok_iff {ε' : Type} {x : Except ε α} {f : ε → ε'} {a : α} :
    x.mapError f = .ok a ↔ x = .ok a := by
  cases x <;> simp [Except.mapError]

theorem mapError_eq_error_iff {ε' : Type} {x : Except ε α} {f : ε → ε'} {e : ε'} :
    x.mapError f = .error e ↔ ∃ e₀, x = .error e₀ ∧ e = f e₀ := by
  cases x <;> simp [Except.mapError, eq_comm]

section Folds

variable {f : β → α → Except ε β}

/-- What every successful step keeps, along the inputs taken so far, a successful fold keeps. -/
theorem foldlM_invariant (I : List α → β → Prop)
    (step : ∀ p a b b', I p b → f b a = .ok b' → I (p ++ [a]) b') (l : List α) {p : List α}
    {b b' : β} (hb : I p b) (h : l.foldlM f b = .ok b') : I (p ++ l) b' := by
  induction l generalizing p b with
  | nil =>
    cases h
    simpa using hb
  | cons a l ih =>
    rw [List.foldlM_cons] at h
    obtain ⟨b₁, h₁, h⟩ := bind_eq_ok_iff.1 h
    simpa using ih (step p a b b₁ hb h₁) h

/-- A fold fails exactly at a step that fails after all the steps before it succeeded. -/
theorem foldlM_eq_error_iff {l : List α} {b : β} {e : ε} :
    l.foldlM f b = .error e ↔
      ∃ pre a post b', l = pre ++ a :: post ∧ pre.foldlM f b = .ok b' ∧ f b' a = .error e := by
  constructor
  · intro h
    induction l generalizing b with
    | nil => cases h
    | cons a l ih =>
      rw [List.foldlM_cons] at h
      cases h₁ : f b a with
      | error e' =>
        rw [h₁] at h
        cases h
        exact ⟨[], a, l, b, rfl, rfl, h₁⟩
      | ok b₁ =>
        rw [h₁] at h
        obtain ⟨pre, a', post, b', rfl, hpre, ha'⟩ := ih h
        refine ⟨a :: pre, a', post, b', rfl, ?_, ha'⟩
        rw [List.foldlM_cons, h₁]
        exact hpre
  · rintro ⟨pre, a, post, b', rfl, hpre, ha⟩
    rw [List.foldlM_append, hpre]
    simp [bind, Except.bind, List.foldlM_cons, ha]

/-- A fold fails only as one of its steps fails. -/
theorem foldlM_error_of {Q : ε → Prop} (hstep : ∀ b a e, f b a = .error e → Q e) {l : List α}
    {b : β} {e : ε} (h : l.foldlM f b = .error e) : Q e := by
  obtain ⟨_, a, _, b', _, _, ha⟩ := foldlM_eq_error_iff.1 h
  exact hstep b' a e ha

/-- When whether a step succeeds depends on its input alone, a fold succeeds exactly when every
input admits a step. -/
theorem foldlM_isOk_iff {P : α → Prop} (hstep : ∀ b a, (∃ b', f b a = .ok b') ↔ P a)
    (l : List α) (b : β) : (∃ b', l.foldlM f b = .ok b') ↔ ∀ a ∈ l, P a := by
  induction l generalizing b with
  | nil => simp [pure, Except.pure]
  | cons a l ih =>
    simp only [List.foldlM_cons, List.forall_mem_cons]
    cases h : f b a with
    | error e =>
      have hP : ¬ P a := fun hP => by
        obtain ⟨_, hb'⟩ := (hstep b a).2 hP
        rw [h] at hb'
        cases hb'
      simp [hP]
    | ok b₁ =>
      have hP : P a := (hstep b a).1 ⟨b₁, h⟩
      simpa [hP] using ih b₁

end Folds

end GirAda

import Mathlib.Tactic.TypeStar

/-!
# Runs — labelled steps one after the other

`Run R s es t`: steps of `R` with the labels `es`, in this order, lead from `s` to `t`.  Labels are added at the end,
so that what is known of a run so far is extended by one step.
-/

namespace TypedWiki

variable {σ ε : Type*}

/-- Steps of `R` with the labels `es` lead from one state to another. -/
inductive Run (R : σ → ε → σ → Prop) : σ → List ε → σ → Prop where
  | nil (s : σ) : Run R s [] s
  | snoc {s t u : σ} {es : List ε} {e : ε} (run : Run R s es t) (step : R t e u) : Run R s (es ++ [e]) u

namespace Run

variable {R : σ → ε → σ → Prop} {s t u : σ} {es fs : List ε}

/-- Without a step there is no change. -/
theorem eq_of_nil (h : Run R s [] t) : t = s := by
  generalize hes : ([] : List ε) = es at h
  cases h with
  | nil => rfl
  | snoc => simp at hes

theorem single {e : ε} (h : R s e t) : Run R s [e] t := Run.snoc (Run.nil s) h

theorem append (h : Run R s es t) (h' : Run R t fs u) : Run R s (es ++ fs) u := by
  induction h' with
  | nil => simpa using h
  | snoc _ step ih =>
    rw [← List.append_assoc]
    exact Run.snoc ih step

theorem cons {e : ε} (h : R s e t) (h' : Run R t fs u) : Run R s (e :: fs) u := (single h).append h'

/-- A run of steps that are steps of another kind as well. -/
theorem imp {S : σ → ε → σ → Prop} (step : ∀ s e t, R s e t → S s e t) (h : Run R s es t) : Run S s es t := by
  induction h with
  | nil => exact .nil _
  | snoc _ last ih => exact ih.snoc (step _ _ _ last)

/-- What every step leaves, the run leaves. -/
theorem view_eq {γ : Type*} (h : Run R s es t) (view : σ → γ)
    (step : ∀ e ∈ es, ∀ s t, R s e t → view t = view s) : view t = view s := by
  induction h with
  | nil => rfl
  | snoc _ last ih =>
    rw [step _ (by simp) _ _ last]
    exact ih fun e he => step e (List.mem_append_left _ he)

end Run

end TypedWiki

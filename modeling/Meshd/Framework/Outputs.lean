import Meshd.Framework.Run

namespace Meshd.Framework

/-! What a machine puts out along a run. -/

variable {σ ε ω : Type*} {step : σ → ε → σ} {out : σ → ε → List ω} {s : σ} {es fs : List ε} {e : ε}

/-- The outputs of a run, oldest first. -/
def outputs (step : σ → ε → σ) (out : σ → ε → List ω) (s : σ) : List ε → List ω
  | [] => []
  | e :: es => out s e ++ outputs step out (step s e) es

@[simp] theorem outputs_nil : outputs step out s [] = [] := rfl

@[simp] theorem outputs_append :
    outputs step out s (es ++ fs) =
      outputs step out s es ++ outputs step out (exec step s es) fs := by
  induction es generalizing s with
  | nil => rfl
  | cons e es ih => simp [outputs, ih]

theorem outputs_concat :
    outputs step out s (es ++ [e]) = outputs step out s es ++ out (exec step s es) e := by
  simp [outputs]

/-- An output is put out at some point of the run. -/
theorem exists_of_mem_outputs {o : ω} (h : o ∈ outputs step out s es) :
    ∃ before e after, es = before ++ e :: after ∧ o ∈ out (exec step s before) e := by
  induction es generalizing s with
  | nil => cases h
  | cons e es ih =>
    rcases List.mem_append.mp h with h | h
    · exact ⟨[], e, es, rfl, h⟩
    · obtain ⟨before, f, after, rfl, ho⟩ := ih h
      exact ⟨e :: before, f, after, rfl, ho⟩

end Meshd.Framework

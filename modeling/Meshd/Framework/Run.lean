import Mathlib.Data.List.Infix
import Mathlib.Order.Lattice

namespace Meshd.Framework

variable {σ ε : Type*}

/-- The state after a run; the events are handed to the step function oldest first. -/
def exec (step : σ → ε → σ) (s : σ) (es : List ε) : σ := es.foldl step s

/-- The state in which the event at position `k` of a run is handled. -/
def stateAt (step : σ → ε → σ) (s : σ) (es : List ε) (k : Nat) : σ := exec step s (es.take k)

/-- Every event of the run meets `C` in the state that handles it. -/
def Along (step : σ → ε → σ) (C : σ → ε → Prop) (s : σ) (es : List ε) : Prop :=
  ∀ k e, es[k]? = some e → C (stateAt step s es k) e

/-- The event at position `k` and the state that handles it satisfy `P`. -/
def EventAt (step : σ → ε → σ) (s : σ) (es : List ε) (k : Nat) (P : σ → ε → Prop) : Prop :=
  ∃ e, es[k]? = some e ∧ P (stateAt step s es k) e

section
variable (step : σ → ε → σ) (s : σ) (es : List ε) (e : ε)

@[simp] theorem exec_nil : exec step s [] = s := rfl

@[simp] theorem exec_cons : exec step s (e :: es) = exec step (step s e) es := rfl

@[simp] theorem exec_append (fs : List ε) :
    exec step s (es ++ fs) = exec step (exec step s es) fs := List.foldl_append

theorem exec_concat : exec step s (es ++ [e]) = step (exec step s es) e := by simp

@[simp] theorem stateAt_length : stateAt step s es es.length = exec step s es := by
  simp [stateAt]

theorem stateAt_concat {k : Nat} (hk : k ≤ es.length) :
    stateAt step s (es ++ [e]) k = stateAt step s es k := by
  simp [stateAt, List.take_append_of_le_length hk]

theorem stateAt_concat_length : stateAt step s (es ++ [e]) es.length = exec step s es := by
  rw [stateAt_concat step s es e le_rfl, stateAt_length]

theorem stateAt_succ {k : Nat} (h : es[k]? = some e) :
    stateAt step s es (k + 1) = step (stateAt step s es k) e := by
  obtain ⟨hk, rfl⟩ := List.getElem?_eq_some_iff.mp h
  rw [stateAt, List.take_add_one, h]
  exact exec_concat step s (es.take k) es[k]

/-- Beyond its last event a run stays where it is. -/
theorem stateAt_succ_of_none {k : Nat} (h : es[k]? = none) :
    stateAt step s es (k + 1) = stateAt step s es k := by
  have hlen : es.length ≤ k := List.getElem?_eq_none_iff.mp h
  rw [stateAt, stateAt, List.take_of_length_le (by omega), List.take_of_length_le hlen]

end

/-- An event of an extended run is an event of the run, or the one just added. -/
theorem getElem?_concat_cases {es : List ε} {e f : ε} {k : Nat} (h : (es ++ [e])[k]? = some f) :
    es[k]? = some f ∧ k < es.length ∨ k = es.length ∧ f = e := by
  rcases Nat.lt_trichotomy k es.length with hk | hk | hk
  · rw [List.getElem?_append_left hk] at h
    exact .inl ⟨h, hk⟩
  · subst hk
    simp only [List.getElem?_concat_length, Option.some.injEq] at h
    exact .inr ⟨rfl, h.symm⟩
  · rw [List.getElem?_eq_none (by simp; omega)] at h
    cases h

theorem lt_length_of_getElem? {es : List ε} {e : ε} {k : Nat} (h : es[k]? = some e) :
    k < es.length := (List.getElem?_eq_some_iff.mp h).1

theorem getElem?_concat_of {es : List ε} {e f : ε} {k : Nat} (h : es[k]? = some f) :
    (es ++ [e])[k]? = some f := by
  rw [List.getElem?_append_left (lt_length_of_getElem? h), h]

section
variable {step : σ → ε → σ} {s : σ} {es : List ε} {e : ε} {k : Nat} {P : σ → ε → Prop}

theorem EventAt.lt_length (h : EventAt step s es k P) : k < es.length := by
  obtain ⟨e, he, -⟩ := h
  exact lt_length_of_getElem? he

theorem EventAt.mono {Q : σ → ε → Prop} (h : EventAt step s es k P) (hPQ : ∀ s e, P s e → Q s e) :
    EventAt step s es k Q := by
  obtain ⟨e, he, hP⟩ := h
  exact ⟨e, he, hPQ _ e hP⟩

theorem EventAt.concat (h : EventAt step s es k P) : EventAt step s (es ++ [e]) k P := by
  have hk := h.lt_length
  obtain ⟨f, hf, hP⟩ := h
  exact ⟨f, getElem?_concat_of hf, by rwa [stateAt_concat step s es e hk.le]⟩

theorem EventAt.last (h : P (exec step s es) e) : EventAt step s (es ++ [e]) es.length P :=
  ⟨e, by simp, by rwa [stateAt_concat_length]⟩

theorem stateAt_take {n : Nat} (hk : k ≤ n) :
    stateAt step s (es.take n) k = stateAt step s es k := by
  rw [stateAt, stateAt, List.take_take, Nat.min_eq_left hk]

/-- A prefix of a run has the events of the run before its end. -/
theorem eventAt_take {n : Nat} (hk : k < n) :
    EventAt step s (es.take n) k P ↔ EventAt step s es k P := by
  simp only [EventAt, List.getElem?_take_of_lt hk, stateAt_take hk.le]

/-- What happens in an extended run happened before, or is the event just added. -/
theorem EventAt.of_concat (h : EventAt step s (es ++ [e]) k P) :
    EventAt step s es k P ∨ k = es.length ∧ P (exec step s es) e := by
  obtain ⟨f, hf, hP⟩ := h
  rcases getElem?_concat_cases hf with ⟨hf, hk⟩ | ⟨rfl, rfl⟩
  · rw [stateAt_concat step s es e hk.le] at hP
    exact .inl ⟨f, hf, hP⟩
  · rw [stateAt_concat_length] at hP
    exact .inr ⟨rfl, hP⟩

end

variable {step : σ → ε → σ} {C : σ → ε → Prop} {s : σ} {es : List ε} {e : ε}

/-- What holds at first and survives every step holds after every run. -/
theorem exec_invariant {P : σ → Prop} (h0 : P s) (hstep : ∀ s e, P s → P (step s e)) (es : List ε) :
    P (exec step s es) := by
  induction es generalizing s with
  | nil => exact h0
  | cons e es ih => exact ih (hstep s e h0)

theorem stateAt_invariant {P : σ → Prop} (h0 : P s) (hstep : ∀ s e, P s → P (step s e))
    (es : List ε) (k : Nat) : P (stateAt step s es k) :=
  exec_invariant h0 hstep (es.take k)

/-- The rule for what holds from one position of a run on. The property may speak of the position,
as long as it survives waiting beyond the last event. -/
theorem stateAt_from {P : Nat → σ → Prop} {i m : Nat} (him : i ≤ m)
    (h0 : P i (stateAt step s es i)) (hwait : ∀ k s, P k s → P (k + 1) s)
    (hstep : ∀ k e, i ≤ k → k < m → es[k]? = some e → P k (stateAt step s es k) →
      P (k + 1) (step (stateAt step s es k) e)) : P m (stateAt step s es m) := by
  induction m, him using Nat.le_induction with
  | base => exact h0
  | succ m him ih =>
    have ih := ih (fun k e hik hkm => hstep k e hik (by omega))
    cases he : es[m]? with
    | none =>
      rw [stateAt_succ_of_none _ _ _ he]
      exact hwait m _ ih
    | some e =>
      rw [stateAt_succ _ _ _ _ he]
      exact hstep m e him (by omega) he ih

/-- The rule for properties of the run so far and the state it leads to. -/
theorem exec_history {P : List ε → σ → Prop} (h0 : P [] s)
    (hstep : ∀ es e, P es (exec step s es) → P (es ++ [e]) (step (exec step s es) e))
    (es : List ε) : P es (exec step s es) := by
  induction es using List.reverseRecOn with
  | nil => exact h0
  | append_singleton es e ih =>
    rw [exec_concat]
    exact hstep es e ih

theorem along_concat : Along step C s (es ++ [e]) ↔ Along step C s es ∧ C (exec step s es) e := by
  constructor
  · intro h
    refine ⟨fun k f hf => ?_, ?_⟩
    · have hc := h k f (getElem?_concat_of hf)
      rwa [stateAt_concat step s es e (lt_length_of_getElem? hf).le] at hc
    · have hc := h es.length e (by simp)
      rwa [stateAt_concat_length] at hc
  · rintro ⟨h, he⟩ k f hf
    rcases getElem?_concat_cases hf with ⟨hf, hk⟩ | ⟨rfl, rfl⟩
    · rw [stateAt_concat step s es e hk.le]
      exact h k f hf
    · rwa [stateAt_concat_length]

theorem along_nil : Along step C s [] := by
  intro k e he
  simp at he

theorem along_cons : Along step C s (e :: es) ↔ C s e ∧ Along step C (step s e) es := by
  constructor
  · intro h
    exact ⟨h 0 e rfl, fun k f hf => h (k + 1) f hf⟩
  · rintro ⟨he, h⟩ k f hf
    cases k with
    | zero =>
      obtain rfl : e = f := Option.some.inj hf
      exact he
    | succ k => exact h k f hf

theorem along_append {fs : List ε} :
    Along step C s (es ++ fs) ↔ Along step C s es ∧ Along step C (exec step s es) fs := by
  induction es generalizing s with
  | nil => simp [along_nil]
  | cons e es ih => rw [List.cons_append, along_cons, along_cons, ih, exec_cons, and_assoc]

theorem Along.take (h : Along step C s es) (n : Nat) : Along step C s (es.take n) := by
  intro k e he
  have hk : k < n := by
    have := lt_length_of_getElem? he
    rw [List.length_take] at this
    omega
  rw [List.getElem?_take_of_lt hk] at he
  rw [stateAt_take hk.le]
  exact h k e he

/-- The history rule for runs whose steps all meet a condition. -/
theorem along_history {P : List ε → σ → Prop} (h0 : P [] s)
    (hstep : ∀ es e, C (exec step s es) e → P es (exec step s es) →
      P (es ++ [e]) (step (exec step s es) e)) (es : List ε) (h : Along step C s es) :
    P es (exec step s es) := by
  refine exec_history (P := fun es t => Along step C s es → P es t) (fun _ => h0) ?_ es h
  intro es e ih ha
  obtain ⟨ha, he⟩ := along_concat.mp ha
  exact hstep es e he (ih ha)

section Log
variable {ω : Type*}

/-- Every entry of a log is justified by the entries before it. The newest stands first. -/
def Justified (P : List ω → ω → Prop) : List ω → Prop
  | [] => True
  | o :: older => P older o ∧ Justified P older

theorem Justified.of_suffix {P : List ω → ω → Prop} {log older : List ω} {o : ω}
    (h : Justified P log) (hs : (o :: older) <:+ log) : P older o := by
  induction log with
  | nil =>
    have hnil := List.suffix_nil.mp hs
    cases hnil
  | cons o' log ih =>
    rcases List.suffix_cons_iff.mp hs with heq | hs
    · cases heq
      exact h.1
    · exact ih h.2 hs

end Log

end Meshd.Framework

import Mathlib.Logic.Basic

namespace Meshd.Framework

variable {σ ε α β : Type}

/-- A computation that may fail, run from a state with `P`: it ends with `Q`, or fails with `E`.
What it wrote before a failure stays written. -/
def Triple (P : σ → Prop) (x : EStateM ε σ α) (Q : α → σ → Prop) (E : ε → σ → Prop) : Prop :=
  ∀ s, P s → match x.run s with
    | .ok a s' => Q a s'
    | .error e s' => E e s'

variable {P P' : σ → Prop} {Q Q' : α → σ → Prop} {R : β → σ → Prop} {E E' : ε → σ → Prop}
  {x : EStateM ε σ α}

theorem Triple.ok (h : Triple P x Q E) {s s' : σ} {a : α} (hs : P s) (hx : x.run s = .ok a s') :
    Q a s' := by
  have ht := h s hs
  rw [hx] at ht
  exact ht

theorem Triple.error (h : Triple P x Q E) {s s' : σ} {e : ε} (hs : P s) (hx : x.run s = .error e s') :
    E e s' := by
  have ht := h s hs
  rw [hx] at ht
  exact ht

theorem Triple.imp (h : Triple P x Q E) (hP : ∀ s, P' s → P s) (hQ : ∀ a s, Q a s → Q' a s)
    (hE : ∀ e s, E e s → E' e s) : Triple P' x Q' E' := by
  intro s hs
  cases hx : x.run s with
  | ok a s' => exact hQ a s' (h.ok (hP s hs) hx)
  | error e s' => exact hE e s' (h.error (hP s hs) hx)

theorem Triple.of_pre (h : Triple P x Q E) (hP : ∀ s, P' s → P s) : Triple P' x Q E :=
  h.imp hP (fun _ _ hs => hs) (fun _ _ hs => hs)

/-- A fact that holds of every state the computation may begin in. -/
theorem Triple.of_fact {F : Prop} (hF : ∀ s, P s → F) (h : F → Triple P x Q E) : Triple P x Q E :=
  fun s hs => h (hF s hs) s hs

theorem Triple.ite {c : Prop} [Decidable c] {y : EStateM ε σ α} (hpos : c → Triple P x Q E)
    (hneg : ¬ c → Triple P y Q E) : Triple P (if c then x else y) Q E := by
  split
  · next hc => exact hpos hc
  · next hc => exact hneg hc

theorem Triple.trivial : Triple P x (fun _ _ => True) (fun _ _ => True) := by
  intro s _
  cases x.run s with
  | ok a s' => exact True.intro
  | error e s' => exact True.intro

theorem Triple.and (h : Triple P x Q E) (h' : Triple P' x Q' E') :
    Triple (fun s => P s ∧ P' s) x (fun a s => Q a s ∧ Q' a s) (fun e s => E e s ∧ E' e s) := by
  intro s hs
  cases hx : x.run s with
  | ok a s' => exact ⟨h.ok hs.1 hx, h'.ok hs.2 hx⟩
  | error e s' => exact ⟨h.error hs.1 hx, h'.error hs.2 hx⟩

theorem Triple.pure {a : α} (h : ∀ s, P s → Q a s) : Triple P (pure a : EStateM ε σ α) Q E :=
  fun s hs => h s hs

theorem Triple.throw {e : ε} (h : ∀ s, P s → E e s) : Triple P (throw e : EStateM ε σ α) Q E :=
  fun s hs => h s hs

theorem Triple.get {Q : σ → σ → Prop} (h : ∀ s, P s → Q s s) :
    Triple P (get : EStateM ε σ σ) Q E :=
  fun s hs => h s hs

theorem Triple.modify {f : σ → σ} {Q : Unit → σ → Prop} (h : ∀ s, P s → Q () (f s)) :
    Triple P (modify f : EStateM ε σ Unit) Q E :=
  fun s hs => h s hs

theorem Triple.modifyGet {f : σ → α × σ} (h : ∀ s, P s → Q (f s).1 (f s).2) :
    Triple P (modifyGet f : EStateM ε σ α) Q E :=
  fun s hs => h s hs

theorem Triple.bind {f : α → EStateM ε σ β} (hx : Triple P x Q E)
    (hf : ∀ a, Triple (Q a) (f a) R E) : Triple P (x >>= f) R E := by
  intro s hs
  cases h : x.run s with
  | ok a s' =>
    have hrun : (x >>= f).run s = (f a).run s' := by rw [EStateM.run_bind, h]
    rw [hrun]
    exact hf a s' (hx.ok hs h)
  | error e s' =>
    have hrun : (x >>= f).run s = .error e s' := by rw [EStateM.run_bind, h]
    rw [hrun]
    exact hx.error hs h

/-- The outcome of a computation as a value. -/
def attempt {ε' : Type} (x : EStateM ε σ α) : EStateM ε' σ (Except ε α) := fun s =>
  match x.run s with
  | .ok a s' => .ok (.ok a) s'
  | .error e s' => .ok (.error e) s'

theorem Triple.attempt {ε' : Type} {F : ε' → σ → Prop} {R : Except ε α → σ → Prop}
    (h : Triple P x Q E) (hQ : ∀ a s, Q a s → R (.ok a) s) (hE : ∀ e s, E e s → R (.error e) s) :
    Triple P (attempt x) R F := by
  intro s hs
  have ht := h s hs
  simp only [EStateM.run, Framework.attempt] at ht ⊢
  cases hx : x s with
  | ok a s' =>
    rw [hx] at ht
    exact hQ a s' ht
  | error e s' =>
    rw [hx] at ht
    exact hE e s' ht

/-- What follows an attempt, where it succeeds and where it fails. -/
theorem Triple.attempt_bind {ε' : Type} {F : ε' → σ → Prop} {f : Except ε α → EStateM ε' σ β}
    (hx : Triple P x Q E) (hok : ∀ a, Triple (Q a) (f (.ok a)) R F)
    (herr : ∀ e, Triple (E e) (f (.error e)) R F) : Triple P (Framework.attempt x >>= f) R F := by
  refine Triple.bind (Triple.attempt hx (R := fun result s => match result with
    | .ok a => Q a s
    | .error e => E e s) (fun _ _ hs => hs) (fun _ _ hs => hs)) fun result => ?_
  cases result with
  | ok a => exact hok a
  | error e => exact herr e

theorem Triple.ofExcept {y : Except ε α} (hok : ∀ a, y = .ok a → ∀ s, P s → Q a s)
    (herr : ∀ e, y = .error e → ∀ s, P s → E e s) :
    Triple P (ofExcept y : EStateM ε σ α) Q E := by
  cases y with
  | ok a => exact Triple.pure (hok a rfl)
  | error e => exact Triple.throw (herr e rfl)

theorem run_bind_ok {f : α → EStateM ε σ β} {s s' : σ} {b : β} :
    (x >>= f).run s = .ok b s' ↔ ∃ a s₁, x.run s = .ok a s₁ ∧ (f a).run s₁ = .ok b s' := by
  rw [EStateM.run_bind]
  cases x.run s with
  | ok a s₁ =>
    constructor
    · intro h
      exact ⟨a, s₁, rfl, h⟩
    · rintro ⟨_, _, ⟨⟩, h⟩
      exact h
  | error e s₁ => simp

/-- An invariant of a computation, whether it fails or not. -/
def Keeps (I : σ → Prop) (x : EStateM ε σ α) : Prop := Triple I x (fun _ => I) (fun _ => I)

variable {I : σ → Prop}

theorem Keeps.pure (a : α) : Keeps I (pure a : EStateM ε σ α) := Triple.pure fun _ hs => hs

theorem Keeps.throw (e : ε) : Keeps I (throw e : EStateM ε σ α) := Triple.throw fun _ hs => hs

theorem Keeps.get : Keeps I (get : EStateM ε σ σ) := Triple.get fun _ hs => hs

theorem Keeps.modify {f : σ → σ} (h : ∀ s, I s → I (f s)) :
    Keeps I (modify f : EStateM ε σ Unit) :=
  Triple.modify h

theorem Keeps.bind {f : α → EStateM ε σ β} (hx : Keeps I x) (hf : ∀ a, Keeps I (f a)) :
    Keeps I (x >>= f) :=
  Triple.bind hx hf

/-- The invariant of one part of a computation, where another part has an invariant of its own. -/
theorem Keeps.orLeft {J : σ → Prop} (h : Keeps I x) :
    Triple I x (fun _ => I) (fun _ s => I s ∨ J s) :=
  h.imp (fun _ hs => hs) (fun _ _ hs => hs) (fun _ _ hs => .inl hs)

theorem Keeps.orRight {J : σ → Prop} (h : Keeps I x) :
    Triple I x (fun _ => I) (fun _ s => J s ∨ I s) :=
  h.imp (fun _ hs => hs) (fun _ _ hs => hs) (fun _ _ hs => .inr hs)

/-- The invariant of a computation whose failures do not matter. -/
theorem Keeps.orFail (h : Keeps I x) : Triple I x (fun _ => I) (fun _ _ => True) :=
  h.imp (fun _ hs => hs) (fun _ _ hs => hs) (fun _ _ _ => True.intro)

end Meshd.Framework

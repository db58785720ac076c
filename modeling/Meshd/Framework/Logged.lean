import Meshd.Framework.Hoare

namespace Meshd.Framework

/-! Computations that keep a log beside their state, and the computations they are without it. -/

variable {ε σ τ α β γ : Type}

abbrev LoggedM (ε σ τ : Type) := EStateM ε (σ × List τ)

/-- A computation that adds to the log what is due in the state it starts in. It returns that state
as well. -/
def logging (entries : σ → List τ) (x : EStateM ε σ α) : LoggedM ε σ τ (σ × α) := fun p =>
  match x.run p.1 with
  | .ok a s' => .ok (p.1, a) (s', p.2 ++ entries p.1)
  | .error e s' => .error e (s', p.2 ++ entries p.1)

/-- A computation that adds nothing to the log. -/
def lift (x : EStateM ε σ α) : LoggedM ε σ τ α := fun p =>
  match x.run p.1 with
  | .ok a s' => .ok a (s', p.2)
  | .error e s' => .error e (s', p.2)

/-- An addition to the log. -/
def record (entries : List τ) : LoggedM ε σ τ Unit := modify fun p => (p.1, p.2 ++ entries)

/-- The log of a run that ends with the first entry at which `p` holds. -/
def upTo (p : τ → Bool) : List τ → List τ
  | [] => []
  | t :: rest => if p t then [t] else t :: upTo p rest

theorem mem_of_mem_upTo {p : τ → Bool} {log : List τ} {t : τ} (h : t ∈ upTo p log) : t ∈ log := by
  induction log with
  | nil => exact h
  | cons u rest ih =>
    rw [upTo] at h
    split at h
    · exact List.mem_singleton.mp h ▸ List.mem_cons_self
    · exact List.mem_cons.mpr ((List.mem_cons.mp h).imp_right ih)

/-- A run that gets to its last entry has not ended before. -/
theorem any_of_mem_upTo {p : τ → Bool} {log : List τ} {t : τ} (h : t ∈ upTo p (log ++ [t]))
    (ht : p t = false) (hlast : t ∉ log) : (log ++ [t]).any p = false := by
  induction log with
  | nil => simpa using ht
  | cons u rest ih =>
    obtain ⟨hne, hrest⟩ : t ≠ u ∧ t ∉ rest := by simpa using hlast
    rw [List.cons_append, upTo] at h
    cases hu : p u with
    | true =>
      rw [if_pos hu] at h
      exact absurd (List.mem_singleton.mp h) hne
    | false =>
      rw [if_neg (Bool.eq_false_iff.mp hu)] at h
      rw [List.cons_append, List.any_cons, hu, ih ((List.mem_cons.mp h).resolve_left hne) hrest]
      rfl

section Rules
variable {P : σ → Prop} {Q : α → σ → Prop} {E : ε → σ → Prop} {x : EStateM ε σ α}
  {L : List τ → Prop}

theorem Triple.lift (h : Triple P x Q E) :
    Triple (fun p => P p.1 ∧ L p.2) (lift x) (fun a p => Q a p.1 ∧ L p.2)
      (fun e p => E e p.1 ∧ L p.2) := by
  intro p hp
  have ht := h p.1 hp.1
  simp only [EStateM.run, Framework.lift] at ht ⊢
  cases hx : x p.1 with
  | ok a s' =>
    rw [hx] at ht
    exact ⟨ht, hp.2⟩
  | error e s' =>
    rw [hx] at ht
    exact ⟨ht, hp.2⟩

/-- A computation whose outcome does not matter leaves the log as it was. -/
theorem keeps_lift : Keeps (fun p => L p.2) (lift x : LoggedM ε σ τ α) :=
  (Triple.lift (P := fun _ => True) (L := L) Triple.trivial).imp (fun _ hp => ⟨True.intro, hp⟩)
    (fun _ _ hp => hp.2) (fun _ _ hp => hp.2)

theorem Triple.logging {entries : σ → List τ} {P : σ × List τ → Prop}
    {Q : σ × α → σ × List τ → Prop} {E : ε → σ × List τ → Prop}
    (hok : ∀ p a s', P p → x.run p.1 = .ok a s' → Q (p.1, a) (s', p.2 ++ entries p.1))
    (herr : ∀ p e s', P p → x.run p.1 = .error e s' → E e (s', p.2 ++ entries p.1)) :
    Triple P (logging entries x) Q E := by
  intro p hp
  simp only [EStateM.run, Framework.logging]
  cases hx : x p.1 with
  | ok a s' => exact hok p a s' hp hx
  | error e s' => exact herr p e s' hp hx

end Rules

/-- `x` is `y` with a log: it ends as `y` does, with a value that `g` takes to that of `y`. -/
def Erases (g : α → β) (x : LoggedM ε σ τ α) (y : EStateM ε σ β) : Prop :=
  ∀ p, match x.run p with
    | .ok a p' => y.run p.1 = .ok (g a) p'.1
    | .error e p' => y.run p.1 = .error e p'.1

namespace Erases

variable {g : α → β} {x : LoggedM ε σ τ α} {y : EStateM ε σ β}

theorem pure {a : α} {b : β} (h : g a = b) :
    Erases g (pure a : LoggedM ε σ τ α) (pure b : EStateM ε σ β) := by
  intro p
  subst h
  rfl

theorem throw (e : ε) : Erases g (throw e : LoggedM ε σ τ α) (throw e : EStateM ε σ β) :=
  fun _ => rfl

theorem lift (y : EStateM ε σ β) : Erases id (lift y : LoggedM ε σ τ β) y := by
  intro p
  simp only [EStateM.run, Framework.lift]
  cases y p.1 with
  | ok b s' => rfl
  | error e s' => rfl

theorem bind {f : α → LoggedM ε σ τ γ} {δ : Type} {g' : γ → δ} {k : β → EStateM ε σ δ}
    (hx : Erases g x y) (hf : ∀ a, Erases g' (f a) (k (g a))) :
    Erases g' (x >>= f) (y >>= k) := by
  intro p
  have hp := hx p
  simp only [EStateM.run_bind]
  cases hrun : x.run p with
  | ok a p' =>
    rw [hrun] at hp
    rw [hp]
    exact hf a p'
  | error e p' =>
    rw [hrun] at hp
    simp only [hp]

theorem record_bind {entries : List τ} {f : Unit → LoggedM ε σ τ α} (hf : Erases g (f ()) y) :
    Erases g (record entries >>= f) y :=
  fun p => hf (p.1, p.2 ++ entries)

/-- A value that is read off the state in which the logged computation started. -/
theorem logging_map {entries : σ → List τ} {f : σ × β → γ} {h : γ → β}
    (hf : ∀ s b s', y.run s = .ok b s' → h (f (s, b)) = b) :
    Erases h (do let r ← Framework.logging entries y; return f r) y := by
  intro p
  simp only [EStateM.run_bind]
  cases hy : y.run p.1 with
  | ok b s' =>
    have hl : (Framework.logging entries y).run p = .ok (p.1, b) (s', p.2 ++ entries p.1) := by
      simp only [EStateM.run, Framework.logging] at hy ⊢
      rw [hy]
    rw [hl]
    simp only [EStateM.run_pure, hf _ _ _ hy]
  | error e s' =>
    have hl : (Framework.logging entries y).run p = .error e (s', p.2 ++ entries p.1) := by
      simp only [EStateM.run, Framework.logging] at hy ⊢
      rw [hy]
    rw [hl]

end Erases

end Meshd.Framework

import Meshd.Engine.Refresh.Scheduled

namespace Meshd.Engine

open Meshd.Framework

theorem pendingKey_ne (reason : RefreshReason) : pendingKey reason ≠ "" := by
  simp only [pendingKey]
  split_ifs with h
  · decide
  · exact h

namespace RefreshSystem

variable {s : RefreshSystem} {e : RefreshEvent} {k : RefreshReason} {n : Nat}

/-- The batch in hand answers for the reason at the given sequence or later. -/
def InHand (s : RefreshSystem) (k : RefreshReason) (n : Nat) : Prop :=
  ∃ w, s.work = some w ∧ Owed w.pending k n

/-- The reason is queued, or part of the batch in hand, at the given sequence or later. -/
def Held (s : RefreshSystem) (k : RefreshReason) (n : Nat) : Prop :=
  Owed s.coordinator.pending k n ∨ s.InHand k n

/-- The event deletes the queue entry of the reason: a stream of that reason loses its coverage, or
reports a progress gap. -/
def Drops (s : RefreshSystem) (e : RefreshEvent) (k : RefreshReason) : Prop :=
  s.coordinator.stopped = false ∧
  match e.op with
  | .setStreamCovered y covered =>
    k = reasonForStream y ∧ (s.coordinator.streams y).covered = true ∧ covered = false
  | .setStreamLive y live needsFullRefresh =>
    k = reasonForStream y ∧ live = false ∧ needsFullRefresh = true
  | _ => False

theorem not_owed_erase (pending : GoMap Nat) (k : RefreshReason) (n : Nat) :
    ¬ Owed (pending.erase k) k n := by
  rintro ⟨m, hm, -⟩
  simp at hm

/-- A drop leaves nothing queued under the reason, and the batch in hand as it was. -/
theorem Drops.not_owed (h : s.Drops e k) :
    ¬ Owed (s.step e).coordinator.pending k n ∧ (s.step e).work = s.work := by
  obtain ⟨hs, h⟩ := h
  rcases e with ⟨op, env⟩
  cases op with
  | setStreamCovered y covered =>
    obtain ⟨rfl, hc, rfl⟩ := h
    refine ⟨?_, rfl⟩
    have hp : (s.coordinator.setStreamCovered y false env).pending =
        s.coordinator.pending.erase (reasonForStream y) := by
      simp [RefreshCoordinator.setStreamCovered, hs, hc]
    change ¬ Owed (s.coordinator.setStreamCovered y false env).pending _ n
    rw [hp]
    exact not_owed_erase _ _ _
  | setStreamLive y live needsFullRefresh =>
    obtain ⟨rfl, rfl, rfl⟩ := h
    refine ⟨?_, rfl⟩
    have hp : (s.coordinator.setStreamLive y false true env).pending =
        s.coordinator.pending.erase (reasonForStream y) := by
      simp [RefreshCoordinator.setStreamLive, RefreshCoordinator.reportLive, hs]
    change ¬ Owed (s.coordinator.setStreamLive y false true env).pending _ n
    rw [hp]
    exact not_owed_erase _ _ _
  | _ => exact h.elim

/-- Any other event leaves a queued reason queued, or takes it into the batch in hand. -/
theorem held_of_owed (h : Owed s.coordinator.pending k n) (hd : ¬ s.Drops e k) :
    (s.step e).Held k n := by
  rcases e with ⟨op, env⟩
  cases op with
  | start hasContext =>
    unfold RefreshSystem.step
    dsimp only
    cases hc : s.coordinator.start hasContext env with
    | error _ => exact .inl h
    | ok c => exact .inl (RefreshCoordinator.start_owed h env hc)
  | stop => exact .inl h
  | notify reason => exact .inl (RefreshCoordinator.notify_owed h env reason)
  | setPaused paused => exact .inl (RefreshCoordinator.setPaused_owed h env paused)
  | handleTimer => exact .inl (RefreshCoordinator.handleTimer_owed h env)
  | setStreamCovered y covered =>
    refine .inl ?_
    change Owed (s.coordinator.setStreamCovered y covered env).pending k n
    by_cases hsame : s.coordinator.stopped = true ∨ (s.coordinator.streams y).covered = covered
    · rwa [RefreshCoordinator.setStreamCovered_of_same hsame]
    · rw [not_or, Bool.not_eq_true] at hsame
      refine RefreshCoordinator.setStreamCovered_owed h (fun hc hy => hd ⟨hsame.1, hy, ?_, hc⟩) env
      simpa [hc] using hsame.2
  | setStreamLive y live needsFullRefresh =>
    refine .inl ?_
    change Owed (s.coordinator.setStreamLive y live needsFullRefresh env).pending k n
    cases hs : s.coordinator.stopped with
    | true => rwa [RefreshCoordinator.setStreamLive_of_stopped hs]
    | false =>
      exact RefreshCoordinator.setStreamLive_owed h
        (fun hn hl hy => hd ⟨hs, hy, hl, hn⟩) env
  | invalidateStream y reason => exact .inl (s.coordinator.invalidateStream_owed h y reason env)
  | takeWork =>
    unfold RefreshSystem.step
    dsimp only
    cases ht : s.coordinator.takeWorkLocked env.now with
    | none => exact .inl h
    | some p =>
      obtain ⟨-, -, hw, -, -⟩ := takeWorkLocked_some ht
      exact .inr ⟨p.1, rfl, hw ▸ h⟩
  | finishWork err =>
    unfold RefreshSystem.step
    dsimp only
    cases hw : s.work with
    | none => exact .inl h
    | some w =>
      refine .inl ?_
      cases err with
      | none => exact h
      | some err =>
        rw [RefreshCoordinator.finishWork_err_pending]
        exact h.requeue _
  | exit =>
    unfold RefreshSystem.step
    dsimp only
    split_ifs
    · exact .inl h
    · exact .inl h

/-- The batch in hand stays there until it ends, and a failed one goes back to the queue. -/
theorem held_of_inHand (hi : s.Inv) (h : s.InHand k n) (hk : k ≠ "")
    (hs : ∀ w, s.Succeeds e w → ¬ Owed w.pending k n) : (s.step e).Held k n := by
  obtain ⟨w, hw, ho⟩ := h
  rcases work_step hi e with ⟨-, -, hnone, -⟩ | hsame | ⟨⟨err, herr⟩, -⟩
  · rw [hnone] at hw
    cases hw
  · exact .inr ⟨w, hsame.trans hw, ho⟩
  · have hstep : s.step e = { coordinator := s.coordinator.finishWork w err e.env } := by
      simp only [RefreshSystem.step, herr, hw]
    rw [hstep]
    cases err with
    | none => exact absurd ho (hs w ⟨herr, hw⟩)
    | some err => exact .inl (s.coordinator.finishWork_err_owed w err e.env hk (.inr ho))

/-- One event loses a held reason exactly when it deletes the entry and no batch in hand has it. -/
theorem held_step_iff (hi : s.Inv) (h : s.Held k n) (hk : k ≠ "")
    (hs : ∀ w, s.Succeeds e w → ¬ Owed w.pending k n) :
    (s.step e).Held k n ↔ ¬ (s.Drops e k ∧ ¬ s.InHand k n) := by
  constructor
  · rintro hheld ⟨hd, hhand⟩
    obtain ⟨hp, hw⟩ := hd.not_owed (n := n)
    rcases hheld with ho | ⟨w, hw', ho⟩
    · exact hp ho
    · exact hhand ⟨w, hw ▸ hw', ho⟩
  · intro hd
    by_cases hhand : s.InHand k n
    · exact held_of_inHand hi hhand hk hs
    · exact held_of_owed (h.resolve_right hhand) (fun hdrop => hd ⟨hdrop, hhand⟩)

/-- An accepted notification is queued at the sequence it is given. -/
theorem held_notify (hs : s.coordinator.stopped = false) (reason : RefreshReason) (env : CallEnv) :
    (s.step ⟨.notify reason, env⟩).Held (pendingKey reason) (s.coordinator.sequence + 1) := by
  refine .inl ?_
  have hp : (s.coordinator.notify reason env).pending = enqueuePending s.coordinator.pending
      (pendingKey (pendingKey reason)) (s.coordinator.sequence + 1) := by
    simp only [RefreshCoordinator.notify, hs, Bool.false_eq_true, if_false,
      RefreshCoordinator.deferPendingLocked_pending]
    rfl
  change Owed (s.coordinator.notify reason env).pending _ _
  rw [hp, pendingKey_of_ne (pendingKey_ne reason)]
  exact Owed.enqueue_self _ _ _

section Run
variable {cfg : RefreshCoordinatorConfig} {c : RefreshCoordinator} {es : List RefreshEvent}
  {i : Nat} {reason : RefreshReason} {env : CallEnv}

/-- At position `l` a batch that was taken after position `i` finishes without error. -/
def AnsweredAt (s₀ : RefreshSystem) (es : List RefreshEvent) (i l : Nat) : Prop :=
  ∃ w, EventAt step s₀ es l (fun s e => s.Succeeds e w) ∧
    ∃ t, i < t ∧ t < l ∧ EventAt step s₀ es t (fun s e => s.Takes e w)

/-- A batch in hand was taken after position `i`, or holds only what was numbered by then. -/
theorem work_origin (hc : c.Fresh) {l : Nat} (hil : i < l) (hop : es[i]? = some ⟨.notify reason, env⟩)
    {w : RefreshWork} (hw : (stateAt step { coordinator := c } es l).work = some w) :
    (∃ t, i < t ∧ t < l ∧ EventAt step { coordinator := c } es t (fun s e => s.Takes e w)) ∨
    ∀ k n, w.pending.lookup k = some n →
      n ≤ (stateAt step { coordinator := c } es i).coordinator.sequence := by
  have hinv (m : Nat) := stateAt_invariant (Inv.init hc) (fun _ e h => Inv.step h e) es m
  refine stateAt_from (P := fun l (s : RefreshSystem) => s.work = some w →
    (∃ t, i < t ∧ t < l ∧ EventAt step { coordinator := c } es t (fun s e => s.Takes e w)) ∨
    ∀ k n, w.pending.lookup k = some n →
      n ≤ (stateAt step { coordinator := c } es i).coordinator.sequence) hil ?_ ?_ ?_ hw
  · rw [stateAt_succ _ _ _ _ hop]
    exact fun hw => .inr (fun k n hk =>
      ((hinv i).work_entries w hw k n hk).trans ((hinv i).work_le w hw))
  · exact fun l s h hw => (h hw).imp_left (fun ⟨t, hit, htl, ht⟩ => ⟨t, hit, by omega, ht⟩)
  · intro l e hil _ he ih hw
    rcases work_step (hinv l) e with ⟨w', ht, -, hw'⟩ | hsame | ⟨-, hnone⟩
    · obtain rfl : w' = w := Option.some.inj (hw'.symm.trans hw)
      exact .inl ⟨l, hil, by omega, e, he, ht⟩
    · exact (ih (hsame ▸ hw)).imp_left (fun ⟨t, hit, htl, ht⟩ => ⟨t, hit, by omega, ht⟩)
    · rw [hnone] at hw
      cases hw

/-- Until it is answered, a notification is held in every state exactly when no event deletes its
entry while no batch in hand has it. -/
theorem notified_held_iff (hc : newRefreshCoordinator cfg = .ok c)
    (hop : es[i]? = some ⟨.notify reason, env⟩)
    (hrun : (stateAt step { coordinator := c } es i).coordinator.stopped = false) {m : Nat}
    (hopen : ∀ l, l < m → ¬ AnsweredAt { coordinator := c } es i l) :
    (∀ l, i < l → l ≤ m → (stateAt step { coordinator := c } es l).Held (pendingKey reason)
      ((stateAt step { coordinator := c } es i).coordinator.sequence + 1)) ↔
    ∀ l, i < l → l < m → ¬ EventAt step { coordinator := c } es l
      (fun s e => s.Drops e (pendingKey reason) ∧ ¬ s.InHand (pendingKey reason)
        ((stateAt step { coordinator := c } es i).coordinator.sequence + 1)) := by
  have hf := newRefreshCoordinator_fresh hc
  have hinv (m : Nat) := stateAt_invariant (Inv.init hf) (fun _ e h => Inv.step h e) es m
  have hfirst := held_notify hrun reason env
  rw [← stateAt_succ step _ _ _ hop] at hfirst
  -- a batch that succeeds in the window is older than the notification
  have hsucc {l : Nat} {e : RefreshEvent} (hil : i < l) (hlm : l < m) (he : es[l]? = some e)
      (w : RefreshWork) (hw : (stateAt step { coordinator := c } es l).Succeeds e w) :
      ¬ Owed w.pending (pendingKey reason)
        ((stateAt step { coordinator := c } es i).coordinator.sequence + 1) := by
    rintro ⟨n, hn, hle⟩
    rcases work_origin hf hil hop hw.2 with ⟨t, hit, htl, ht⟩ | hold
    · exact hopen l hlm ⟨w, ⟨e, he, hw⟩, t, hit, htl, ht⟩
    · have := hold _ n hn
      omega
  constructor
  · rintro hheld l hil hlm ⟨e, he, hdrop⟩
    have hnext := hheld (l + 1) (by omega) hlm
    rw [stateAt_succ _ _ _ _ he] at hnext
    exact (held_step_iff (hinv l) (hheld l hil hlm.le) (pendingKey_ne reason)
      (hsucc hil hlm he)).mp hnext hdrop
  · intro hdrops l hil hlm
    refine stateAt_from (P := fun _ (s : RefreshSystem) => s.Held _ _) hil hfirst
      (fun _ _ h => h) ?_
    intro l' e hil' hlt he hheld
    exact (held_step_iff (hinv l') hheld (pendingKey_ne reason)
      (hsucc hil' (by omega) he)).mpr (fun hd => hdrops l' hil' (by omega) ⟨e, he, hd⟩)

/-- The topology subscription ends for good, which asks for one more reconciliation under its own
reason, and then the watcher clears the stream coverage. -/
def terminated : List RefreshEvent :=
  [⟨.start true, { now := 1 }⟩, ⟨.setStreamCovered refreshStreamTopology true, { now := 2 }⟩,
    ⟨.setStreamLive refreshStreamTopology true false, { now := 3 }⟩, ⟨.takeWork, { now := 4 }⟩,
    ⟨.finishWork none, { now := 5 }⟩,
    ⟨.setStreamLive refreshStreamTopology false false, { now := 6 }⟩,
    ⟨.notify refreshReasonTopology, { now := 7 }⟩,
    ⟨.setStreamCovered refreshStreamTopology false, { now := 8 }⟩]

theorem not_held_terminated :
    terminated[6]? = some ⟨.notify refreshReasonTopology, { now := 7 }⟩ ∧
    (stateAt step { coordinator := defaultCoordinator } terminated 6).coordinator.stopped = false ∧
    (∀ l, l < 8 → ¬ AnsweredAt { coordinator := defaultCoordinator } terminated 6 l) ∧
    ¬ (stateAt step { coordinator := defaultCoordinator } terminated 8).Held refreshReasonTopology
      ((stateAt step { coordinator := defaultCoordinator } terminated 6).coordinator.sequence
        + 1) := by
  refine ⟨rfl, rfl, ?_, ?_⟩
  · rintro l hl ⟨w, -, t, ht, htl, -⟩
    omega
  · rintro (⟨n, hn, -⟩ | ⟨w, hw, -⟩)
    · have hnone : (stateAt step { coordinator := defaultCoordinator } terminated
          8).coordinator.pending.lookup refreshReasonTopology = none := by decide
      rw [hnone] at hn
      cases hn
    · cases hw

/-- A progress gap of the topology stream while an endpoint change is queued. -/
def gapBesideEndpoint : List RefreshEvent :=
  [⟨.start true, { now := 1 }⟩, ⟨.setStreamCovered refreshStreamTopology true, { now := 2 }⟩,
    ⟨.setStreamLive refreshStreamTopology true false, { now := 3 }⟩,
    ⟨.notify refreshReasonEndpoint, { now := 4 }⟩,
    ⟨.setStreamLive refreshStreamTopology false true, { now := 5 }⟩]

theorem notified_held_iff_gapBesideEndpoint :
    (stateAt step { coordinator := defaultCoordinator } gapBesideEndpoint 5).Held
      refreshReasonEndpoint
      ((stateAt step { coordinator := defaultCoordinator } gapBesideEndpoint 3).coordinator.sequence
        + 1) := by
  have hop : gapBesideEndpoint[3]? = some ⟨.notify refreshReasonEndpoint, { now := 4 }⟩ := rfl
  refine (notified_held_iff (m := 5) newRefreshCoordinator_default hop rfl ?_).mpr ?_ 5
    (by decide) le_rfl
  · rintro l hl ⟨w, -, t, ht, htl, -⟩
    omega
  · rintro l hl hlm ⟨e, he, ⟨-, hdrop⟩, -⟩
    obtain rfl : l = 4 := by omega
    cases he
    exact absurd hdrop.1 (by decide)

end Run

end RefreshSystem

end Meshd.Engine

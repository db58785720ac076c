import Meshd.Engine.Refresh.Coordinator

namespace Meshd.Engine

open Meshd.Framework

theorem pendingKey_of_ne {reason : RefreshReason} (h : reason ≠ "") : pendingKey reason = reason :=
  if_neg h

/-- An enqueue raises the sequence of its own entry and leaves the others. -/
theorem lookup_enqueuePending (pending : GoMap Nat) (reason : RefreshReason) (sequence : Nat)
    (k : RefreshReason) :
    (enqueuePending pending reason sequence).lookup k =
      if k = reason then some (max sequence ((pending.lookup k).getD 0))
      else pending.lookup k := by
  simp only [enqueuePending]
  by_cases hk : k = reason
  · subst hk
    cases hl : pending.lookup k with
    | none => simp
    | some current =>
      by_cases hs : sequence > current
      · simp [hs, Nat.max_eq_left hs.le]
      · simp [hs, hl, Nat.max_eq_right (Nat.le_of_not_lt hs)]
  · cases hl : pending.lookup reason with
    | none => simp [hk, AList.lookup_insert_ne hk]
    | some current =>
      by_cases hs : sequence > current
      · simp [hs, hk, AList.lookup_insert_ne hk]
      · simp [hs, hk]

theorem isEmpty_enqueuePending (pending : GoMap Nat) (reason : RefreshReason) (sequence : Nat) :
    GoMap.isEmpty (enqueuePending pending reason sequence) = false :=
  GoMap.isEmpty_false_of_lookup (k := reason)
    (by rw [lookup_enqueuePending, if_pos rfl])

namespace RefreshCoordinator

variable (c : RefreshCoordinator)

section Fields
variable (now : Time) (jitter : Duration → Duration)

@[simp] theorem resetPeriodicLocked_pending :
    (c.resetPeriodicLocked now jitter).pending = c.pending := rfl
@[simp] theorem resetPeriodicLocked_streams :
    (c.resetPeriodicLocked now jitter).streams = c.streams := rfl

/-- Debouncing moves the two debounce times and nothing else. -/
theorem deferPendingLocked_eq : ∃ a b, c.deferPendingLocked now =
    { c with debounceStartedAt := a, debounceNotBefore := b } := by
  simp only [deferPendingLocked]
  split
  · exact ⟨c.debounceStartedAt, c.debounceNotBefore, rfl⟩
  · exact ⟨_, _, rfl⟩

@[simp] theorem deferPendingLocked_pending :
    (c.deferPendingLocked now).pending = c.pending := by
  obtain ⟨a, b, h⟩ := c.deferPendingLocked_eq now
  rw [h]
@[simp] theorem deferPendingLocked_streams :
    (c.deferPendingLocked now).streams = c.streams := by
  obtain ⟨a, b, h⟩ := c.deferPendingLocked_eq now
  rw [h]

end Fields

@[simp] theorem enqueueAtLocked_streams (reason : RefreshReason) (sequence : Nat) :
    (c.enqueueAtLocked reason sequence).streams = c.streams := rfl
@[simp] theorem enqueueAtLocked_sequence (reason : RefreshReason) (sequence : Nat) :
    (c.enqueueAtLocked reason sequence).sequence = c.sequence := rfl

section Streams
variable (x y : RefreshStream) (f : RefreshStreamState → RefreshStreamState)

@[simp] theorem modifyStream_pending : (c.modifyStream y f).pending = c.pending := rfl
@[simp] theorem modifyStream_sequence : (c.modifyStream y f).sequence = c.sequence := rfl
@[simp] theorem modifyStream_inFlight : (c.modifyStream y f).inFlight = c.inFlight := rfl
@[simp] theorem modifyStream_self : (c.modifyStream y f).streams y = f (c.streams y) := by
  simp [modifyStream]
theorem modifyStream_ne (h : x ≠ y) : (c.modifyStream y f).streams x = c.streams x := by
  simp [modifyStream, h]

@[simp] theorem markStale_pending : (c.markStale y).pending = c.pending := rfl
@[simp] theorem markStale_sequence : (c.markStale y).sequence = c.sequence + 1 := rfl
@[simp] theorem markStale_inFlight : (c.markStale y).inFlight = c.inFlight := rfl
@[simp] theorem markStale_self : (c.markStale y).streams y =
    { c.streams y with repaired := false, repairSequence := c.sequence + 1 } := by
  simp [markStale]
theorem markStale_ne (h : x ≠ y) : (c.markStale y).streams x = c.streams x := by
  simp [markStale, modifyStream_ne _ x y _ h]

theorem dropPending_eq : ∃ a b, c.dropPending y = { c with
    pending := c.pending.erase (reasonForStream y), debounceStartedAt := a,
    debounceNotBefore := b } := by
  unfold dropPending
  dsimp only
  split
  · exact ⟨_, _, rfl⟩
  · exact ⟨_, _, rfl⟩

@[simp] theorem dropPending_pending :
    (c.dropPending y).pending = c.pending.erase (reasonForStream y) := by
  obtain ⟨a, b, h⟩ := c.dropPending_eq y
  rw [h]
@[simp] theorem dropPending_streams : (c.dropPending y).streams = c.streams := by
  obtain ⟨a, b, h⟩ := c.dropPending_eq y
  rw [h]

end Streams

/-- Putting a failed batch back touches the queue only. -/
theorem requeue_eq (entries : List (Σ _ : String, Nat)) :
    entries.foldl (fun c item => c.enqueueAtLocked item.1 item.2) c = { c with
      pending := entries.foldl (fun p item => enqueuePending p (pendingKey item.1) item.2)
        c.pending } := by
  induction entries generalizing c with
  | nil => rfl
  | cons e es ih => exact ih (c.enqueueAtLocked e.1 e.2)

section Calls
variable (env : CallEnv)

theorem start_streams {hasContext : Bool} {c' : RefreshCoordinator}
    (h : c.start hasContext env = .ok c') : c'.streams = c.streams := by
  simp only [start] at h
  split_ifs at h
  cases h
  rfl

@[simp] theorem notify_streams (reason : RefreshReason) :
    (c.notify reason env).streams = c.streams := by
  simp only [notify]
  split_ifs
  · rfl
  · rw [deferPendingLocked_streams]
    rfl

@[simp] theorem setPaused_streams (paused : Bool) :
    (c.setPaused paused env).streams = c.streams := by
  unfold setPaused
  dsimp only
  split_ifs
  · rfl
  · rw [deferPendingLocked_streams]
    rfl
  · rfl

@[simp] theorem handleTimer_streams : (c.handleTimer env).streams = c.streams := by
  simp only [handleTimer]
  split_ifs <;> rfl

@[simp] theorem finishWork_err_streams (w : RefreshWork) (err : RefreshError) :
    (c.finishWork w (some err) env).streams = c.streams := by
  simp only [finishWork]
  simp only [requeue_eq]

end Calls

/-- A reading of the coordinator that looks at nothing a public call writes. -/
structure Unwritten {α : Type*} (f : RefreshCoordinator → α) : Prop where
  queue : ∀ c pending sequence, f { c with pending := pending, sequence := sequence } = f c
  streams : ∀ c streams, f { c with streams := streams } = f c
  timer : ∀ c due, f { c with nextPeriodicAt := due } = f c
  window : ∀ c a b, f { c with debounceStartedAt := a, debounceNotBefore := b } = f c
  paused : ∀ c paused, f { c with paused := paused } = f c

namespace Unwritten

variable {α : Type*} {f : RefreshCoordinator → α} (h : Unwritten f) (c : RefreshCoordinator)
include h

theorem reset (now : Time) (jitter : Duration → Duration) :
    f (c.resetPeriodicLocked now jitter) = f c := h.timer c _

theorem enqueueAt (reason : RefreshReason) (sequence : Nat) :
    f (c.enqueueAtLocked reason sequence) = f c := h.queue c _ c.sequence

theorem enqueue (reason : RefreshReason) : f (c.enqueueLocked reason) = f c := h.queue c _ _

theorem defer (now : Time) : f (c.deferPendingLocked now) = f c := by
  obtain ⟨a, b, he⟩ := c.deferPendingLocked_eq now
  rw [he, h.window]

theorem modify (y : RefreshStream) (g : RefreshStreamState → RefreshStreamState) :
    f (c.modifyStream y g) = f c := h.streams c _

theorem mark (y : RefreshStream) : f (c.markStale y) = f c := by
  unfold markStale
  dsimp only
  rw [h.modify]
  exact h.queue c c.pending _

theorem drop (y : RefreshStream) : f (c.dropPending y) = f c := by
  obtain ⟨a, b, he⟩ := c.dropPending_eq y
  rw [he]
  exact (h.window { c with pending := c.pending.erase (reasonForStream y) } a b).trans
    (h.queue c _ c.sequence)

theorem notify (reason : RefreshReason) (env : CallEnv) : f (c.notify reason env) = f c := by
  simp only [RefreshCoordinator.notify]
  split_ifs
  · rfl
  · rw [h.defer, h.enqueue]

theorem setPaused (paused : Bool) (env : CallEnv) : f (c.setPaused paused env) = f c := by
  unfold RefreshCoordinator.setPaused
  dsimp only
  split_ifs
  · rfl
  · rw [h.defer, h.enqueue, h.paused]
  · rw [h.paused]

theorem setStreamCovered (y : RefreshStream) (covered : Bool) (env : CallEnv) :
    f (c.setStreamCovered y covered env) = f c := by
  unfold RefreshCoordinator.setStreamCovered
  dsimp only
  split_ifs
  · rfl
  · rfl
  · rw [h.reset, h.drop, h.modify]
  · rw [h.reset, h.enqueueAt, h.mark, h.modify]
  · rw [h.reset, h.mark, h.modify]

theorem reportLive (y : RefreshStream) (live needsFullRefresh : Bool) :
    f (c.reportLive y live needsFullRefresh) = f c := by
  unfold RefreshCoordinator.reportLive
  dsimp only
  split_ifs
  · rw [h.drop, h.mark, h.modify]
  · rw [h.mark, h.modify]
  · rw [h.modify]

theorem queueRepair (y : RefreshStream) (wasLive : Bool) : f (c.queueRepair y wasLive) = f c := by
  unfold RefreshCoordinator.queueRepair
  dsimp only
  split_ifs
  · rw [h.enqueueAt, h.mark]
  · rw [h.enqueueAt]

theorem setStreamLive (y : RefreshStream) (live needsFullRefresh : Bool) (env : CallEnv) :
    f (c.setStreamLive y live needsFullRefresh env) = f c := by
  unfold RefreshCoordinator.setStreamLive
  dsimp only
  split_ifs
  · rfl
  · rw [h.reset, h.queueRepair, h.reportLive]
  · rw [h.reset, h.reportLive]
  · rw [h.queueRepair, h.reportLive]
  · rw [h.reportLive]

theorem invalidateStream (y : RefreshStream) (reason : RefreshReason) (env : CallEnv) :
    f (c.invalidateStream y reason env) = f c := by
  unfold RefreshCoordinator.invalidateStream
  dsimp only
  split_ifs
  · rfl
  · rw [h.reset, h.defer, h.enqueueAt, h.mark]
  · rw [h.reset, h.defer, h.enqueueAt, h.mark]
  · rw [h.reset, h.mark]

theorem handleTimer (env : CallEnv) : f (c.handleTimer env) = f c := by
  simp only [RefreshCoordinator.handleTimer]
  split_ifs
  · rw [h.reset, h.enqueue]
  · rfl

end Unwritten

/-- What only the configuration, `Start` and `Stop` decide. -/
def setup : Duration × Duration × Bool × Bool :=
  (c.fallbackInterval, c.healthyInterval, c.started, c.stopped)

theorem setup_eq {c c' : RefreshCoordinator} (h : c'.setup = c.setup) :
    c'.fallbackInterval = c.fallbackInterval ∧ c'.healthyInterval = c.healthyInterval ∧
    c'.started = c.started ∧ c'.stopped = c.stopped := by
  simpa [setup, Prod.ext_iff] using h

theorem started_eq {c c' : RefreshCoordinator} (h : c'.setup = c.setup) :
    c'.fallbackInterval = c.fallbackInterval ∧ c'.healthyInterval = c.healthyInterval ∧
    c'.started = c.started :=
  ⟨(setup_eq h).1, (setup_eq h).2.1, (setup_eq h).2.2.1⟩

theorem unwritten_setup : Unwritten setup :=
  ⟨fun _ _ _ => rfl, fun _ _ => rfl, fun _ _ => rfl, fun _ _ _ => rfl, fun _ _ => rfl⟩

theorem finishWork_setup (w : RefreshWork) (err : Option RefreshError) (env : CallEnv) :
    (c.finishWork w err env).setup = c.setup := by
  cases err with
  | none => rfl
  | some err =>
    simp only [finishWork]
    simp only [requeue_eq]
    rfl

section NoOps
variable {c}

theorem setStreamCovered_of_same {y : RefreshStream} {covered : Bool} {env : CallEnv}
    (h : c.stopped = true ∨ (c.streams y).covered = covered) :
    c.setStreamCovered y covered env = c := by
  simp only [setStreamCovered]
  rcases h with h | h <;> simp [h]

theorem setStreamLive_of_stopped {y : RefreshStream} {live needsFullRefresh : Bool}
    {env : CallEnv} (h : c.stopped = true) :
    c.setStreamLive y live needsFullRefresh env = c := by
  simp [setStreamLive, h]

theorem invalidateStream_of_stopped {y : RefreshStream} {reason : RefreshReason} {env : CallEnv}
    (h : c.stopped = true) : c.invalidateStream y reason env = c := by
  simp [invalidateStream, h]

end NoOps

/-- What a lifecycle report leaves of its own stream. -/
theorem setStreamLive_self (y : RefreshStream) (live needsFullRefresh : Bool) (env : CallEnv)
    (hs : c.stopped = false) :
    (c.setStreamLive y live needsFullRefresh env).streams y =
      let state := c.streams y
      let stale := if needsFullRefresh then c.sequence + 1 else c.sequence
      let repaired := state.repaired && !needsFullRefresh
      let repairSequence := if needsFullRefresh then stale else state.repairSequence
      { state with
        live := live, repaired := repaired,
        repairSequence :=
          if live && state.covered && !repaired && (!state.live || repairSequence == 0)
          then stale + 1 else repairSequence } := by
  simp only [setStreamLive, reportLive, queueRepair]
  rcases hst : c.streams y with ⟨covered, wasLive, repaired, n⟩
  cases covered <;> cases wasLive <;> cases repaired <;> cases live <;>
    cases needsFullRefresh <;> simp [hs, hst, apply_ite]
  split <;> simp_all

theorem setStreamLive_ne (x y : RefreshStream) (live needsFullRefresh : Bool) (env : CallEnv)
    (hx : x ≠ y) : (c.setStreamLive y live needsFullRefresh env).streams x = c.streams x := by
  have hm := fun (c : RefreshCoordinator) f => c.modifyStream_ne x y f hx
  have hk := fun (c : RefreshCoordinator) => c.markStale_ne x y hx
  unfold setStreamLive reportLive queueRepair
  dsimp only
  split_ifs <;> simp [hm, hk]

theorem setStreamCovered_self (y : RefreshStream) (covered : Bool) (env : CallEnv)
    (hs : c.stopped = false) :
    (c.setStreamCovered y covered env).streams y =
      let state := c.streams y
      if state.covered = covered then state
      else if covered then
        { state with covered := true, repaired := false, repairSequence := c.sequence + 1 }
      else {} := by
  simp only [setStreamCovered]
  rcases hst : c.streams y with ⟨wasCovered, live, repaired, n⟩
  cases wasCovered <;> cases covered <;> cases live <;> simp [hs, hst]

theorem setStreamCovered_ne (x y : RefreshStream) (covered : Bool) (env : CallEnv)
    (hx : x ≠ y) : (c.setStreamCovered y covered env).streams x = c.streams x := by
  have hm := fun (c : RefreshCoordinator) f => c.modifyStream_ne x y f hx
  have hk := fun (c : RefreshCoordinator) => c.markStale_ne x y hx
  unfold setStreamCovered
  dsimp only
  split_ifs <;> simp [hm, hk]

theorem invalidateStream_self (y : RefreshStream) (reason : RefreshReason) (env : CallEnv)
    (hs : c.stopped = false) :
    (c.invalidateStream y reason env).streams y =
      { c.streams y with repaired := false, repairSequence := c.sequence + 1 } := by
  simp only [invalidateStream]
  rcases hst : c.streams y with ⟨covered, live, repaired, n⟩
  cases covered <;> cases live <;> simp [hs, hst]

theorem invalidateStream_ne (x y : RefreshStream) (reason : RefreshReason) (env : CallEnv)
    (hx : x ≠ y) : (c.invalidateStream y reason env).streams x = c.streams x := by
  unfold invalidateStream
  dsimp only
  split_ifs <;> simp [c.markStale_ne x y hx]

/-- No pending entry and no repair sequence is ahead of the counter, and a covered stream has
been given one. -/
structure Sequenced : Prop where
  pending : ∀ k n, c.pending.lookup k = some n → n ≤ c.sequence
  repair : ∀ x, (c.streams x).repairSequence ≤ c.sequence
  covered : ∀ x, (c.streams x).covered = true → 0 < (c.streams x).repairSequence

/-- Inside a call that started in `c₀`: the counter only grew and no refresh began or ended. -/
structure Advances (c₀ c : RefreshCoordinator) : Prop where
  sequenced : c.Sequenced
  sequence : c₀.sequence ≤ c.sequence
  inFlight : c.inFlight = c₀.inFlight

variable {c} {c₀ : RefreshCoordinator}

theorem Sequenced.advances (h : c.Sequenced) : Advances c c := ⟨h, le_rfl, rfl⟩

namespace Advances

variable (h : Advances c₀ c)
include h

theorem enqueueAt (reason : RefreshReason) {sequence : Nat} (hs : sequence ≤ c.sequence) :
    Advances c₀ (c.enqueueAtLocked reason sequence) := by
  refine ⟨⟨?_, h.sequenced.repair, h.sequenced.covered⟩, h.sequence, h.inFlight⟩
  intro k n hk
  change (enqueuePending c.pending (pendingKey reason) sequence).lookup k = some n at hk
  rw [lookup_enqueuePending] at hk
  split_ifs at hk with he
  · have hp : (c.pending.lookup k).getD 0 ≤ c.sequence := by
      cases hl : c.pending.lookup k with
      | none => simp
      | some m => exact h.sequenced.pending k m hl
    have hn := Option.some.inj hk
    simp only [enqueueAtLocked_sequence]
    omega
  · exact h.sequenced.pending k n hk

theorem bump : Advances c₀ { c with sequence := c.sequence + 1 } :=
  ⟨⟨fun k n hk => (h.sequenced.pending k n hk).trans (Nat.le_succ _),
    fun x => (h.sequenced.repair x).trans (Nat.le_succ _), h.sequenced.covered⟩,
    h.sequence.trans (Nat.le_succ _), h.inFlight⟩

theorem enqueue (reason : RefreshReason) : Advances c₀ (c.enqueueLocked reason) :=
  h.bump.enqueueAt reason le_rfl

theorem reset (now : Time) (jitter : Duration → Duration) :
    Advances c₀ (c.resetPeriodicLocked now jitter) :=
  ⟨⟨h.sequenced.pending, h.sequenced.repair, h.sequenced.covered⟩, h.sequence, h.inFlight⟩

theorem defer (now : Time) : Advances c₀ (c.deferPendingLocked now) := by
  obtain ⟨a, b, he⟩ := c.deferPendingLocked_eq now
  rw [he]
  exact ⟨⟨h.sequenced.pending, h.sequenced.repair, h.sequenced.covered⟩, h.sequence, h.inFlight⟩

theorem drop (y : RefreshStream) : Advances c₀ (c.dropPending y) := by
  obtain ⟨a, b, he⟩ := c.dropPending_eq y
  rw [he]
  refine ⟨⟨?_, h.sequenced.repair, h.sequenced.covered⟩, h.sequence, h.inFlight⟩
  intro k n hk
  by_cases hr : k = reasonForStream y
  · subst hr
    simp at hk
  · exact h.sequenced.pending k n (by rwa [AList.lookup_erase_ne hr] at hk)

/-- Whatever a stream's state was, marking it stale gives it a fresh repair sequence, so the
write before it may cover the stream. -/
theorem stale (y : RefreshStream) (f : RefreshStreamState → RefreshStreamState) :
    Advances c₀ ((c.modifyStream y f).markStale y) := by
  refine ⟨⟨h.bump.sequenced.pending, ?_, ?_⟩, h.bump.sequence, h.inFlight⟩
  · intro x
    by_cases hx : x = y
    · subst hx
      simp
    · rw [markStale_ne _ _ _ hx, modifyStream_ne _ _ _ _ hx]
      exact h.bump.sequenced.repair x
  · intro x hc
    by_cases hx : x = y
    · subst hx
      simp
    · rw [markStale_ne _ _ _ hx, modifyStream_ne _ _ _ _ hx] at hc ⊢
      exact h.sequenced.covered x hc

theorem mark (y : RefreshStream) : Advances c₀ (c.markStale y) := by
  have hm : c.modifyStream y id = c := by simp [modifyStream]
  exact hm ▸ h.stale y id

/-- A write to a stream that neither covers it nor advances its repair sequence. -/
theorem modify (y : RefreshStream) {f : RefreshStreamState → RefreshStreamState}
    (hr : (f (c.streams y)).repairSequence ≤ (c.streams y).repairSequence)
    (hc : (f (c.streams y)).covered = true → (c.streams y).covered = true ∧
      (f (c.streams y)).repairSequence = (c.streams y).repairSequence) :
    Advances c₀ (c.modifyStream y f) := by
  refine ⟨⟨h.sequenced.pending, ?_, ?_⟩, h.sequence, h.inFlight⟩
  · intro x
    by_cases hx : x = y
    · subst hx
      simpa using hr.trans (h.sequenced.repair x)
    · rw [modifyStream_ne _ _ _ _ hx]
      exact h.sequenced.repair x
  · intro x hcx
    by_cases hx : x = y
    · subst hx
      rw [modifyStream_self] at hcx ⊢
      rw [(hc hcx).2]
      exact h.sequenced.covered x (hc hcx).1
    · rw [modifyStream_ne _ _ _ _ hx] at hcx ⊢
      exact h.sequenced.covered x hcx

theorem reportLive (y : RefreshStream) (live needsFullRefresh : Bool) :
    Advances c₀ (c.reportLive y live needsFullRefresh) := by
  unfold RefreshCoordinator.reportLive
  dsimp only
  split_ifs
  · exact (h.stale y _).drop y
  · exact h.stale y _
  · exact h.modify y le_rfl (fun hc => ⟨hc, rfl⟩)

theorem queueRepair (y : RefreshStream) (wasLive : Bool) :
    Advances c₀ (c.queueRepair y wasLive) := by
  have hs := h.mark y
  unfold RefreshCoordinator.queueRepair
  dsimp only
  split_ifs
  · exact hs.enqueueAt _ (hs.sequenced.repair y)
  · exact h.enqueueAt _ (h.sequenced.repair y)

theorem setStreamLive (y : RefreshStream) (live needsFullRefresh : Bool) (env : CallEnv) :
    Advances c₀ (c.setStreamLive y live needsFullRefresh env) := by
  have hr := h.reportLive y live needsFullRefresh
  unfold RefreshCoordinator.setStreamLive
  dsimp only
  split_ifs
  · exact h
  · exact (hr.queueRepair y _).reset _ _
  · exact hr.reset _ _
  · exact hr.queueRepair y _
  · exact hr

theorem setStreamCovered (y : RefreshStream) (covered : Bool) (env : CallEnv) :
    Advances c₀ (c.setStreamCovered y covered env) := by
  unfold RefreshCoordinator.setStreamCovered
  dsimp only
  split_ifs
  · exact h
  · exact h
  · exact ((h.modify y (Nat.zero_le _) (by simp)).drop y).reset _ _
  · exact ((h.stale y _).enqueueAt _ ((h.stale y _).sequenced.repair y)).reset _ _
  · exact (h.stale y _).reset _ _

theorem invalidateStream (y : RefreshStream) (reason : RefreshReason) (env : CallEnv) :
    Advances c₀ (c.invalidateStream y reason env) := by
  have hs := h.mark y
  unfold RefreshCoordinator.invalidateStream
  dsimp only
  split_ifs
  · exact h
  · exact ((hs.enqueueAt _ (hs.sequenced.repair y)).defer _).reset _ _
  · exact ((hs.enqueueAt _ (hs.sequenced.repair y)).defer _).reset _ _
  · exact hs.reset _ _

theorem notify (reason : RefreshReason) (env : CallEnv) : Advances c₀ (c.notify reason env) := by
  simp only [RefreshCoordinator.notify]
  split_ifs
  · exact h
  · exact (h.enqueue _).defer _

theorem setPaused (paused : Bool) (env : CallEnv) : Advances c₀ (c.setPaused paused env) := by
  have hp : Advances c₀ { c with paused := paused } :=
    ⟨⟨h.sequenced.pending, h.sequenced.repair, h.sequenced.covered⟩, h.sequence, h.inFlight⟩
  unfold RefreshCoordinator.setPaused
  dsimp only
  split_ifs
  · exact h
  · exact (hp.enqueue _).defer _
  · exact hp

theorem handleTimer (env : CallEnv) : Advances c₀ (c.handleTimer env) := by
  simp only [RefreshCoordinator.handleTimer]
  split_ifs
  · exact (h.enqueue _).reset _ _
  · exact h

/-- A failed batch goes back into the queue entry by entry. -/
theorem requeue (entries : List (Σ _ : String, Nat)) (hle : ∀ e ∈ entries, e.2 ≤ c₀.sequence) :
    Advances c₀ (entries.foldl (fun c item => c.enqueueAtLocked item.1 item.2) c) := by
  induction entries generalizing c with
  | nil => exact h
  | cons e es ih =>
    have he : e.2 ≤ c.sequence := (hle e (by simp)).trans h.sequence
    exact ih (h.enqueueAt e.1 he) (fun e' he' => hle e' (by simp [he']))

end Advances

end RefreshCoordinator

theorem maxSequence_foldl_le (entries : List (Σ _ : String, Nat)) (a : Nat) :
    a ≤ entries.foldl (fun sequence item => if item.2 > sequence then item.2 else sequence) a ∧
    ∀ e ∈ entries,
      e.2 ≤ entries.foldl (fun sequence item => if item.2 > sequence then item.2 else sequence) a := by
  induction entries generalizing a with
  | nil => simp
  | cons e es ih =>
    have hi := ih (if e.2 > a then e.2 else a)
    have ha : a ≤ (if e.2 > a then e.2 else a) ∧ e.2 ≤ (if e.2 > a then e.2 else a) := by
      split_ifs <;> omega
    refine ⟨ha.1.trans hi.1, ?_⟩
    intro e' he'
    rcases List.mem_cons.mp he' with rfl | he'
    · exact ha.2.trans hi.1
    · exact hi.2 e' he'

/-- The batch sequence bounds every entry of the batch. -/
theorem le_maxSequence {pending : GoMap Nat} {k : RefreshReason} {n : Nat}
    (h : pending.lookup k = some n) : n ≤ maxSequence pending.entries :=
  (maxSequence_foldl_le pending.entries 0).2 ⟨k, n⟩ (AList.mem_lookup_iff.mp h)

theorem maxSequence_le {entries : List (Σ _ : String, Nat)} {b : Nat}
    (h : ∀ e ∈ entries, e.2 ≤ b) : maxSequence entries ≤ b := by
  have hg (a : Nat) (ha : a ≤ b) :
      entries.foldl (fun sequence item => if item.2 > sequence then item.2 else sequence) a ≤ b := by
    induction entries generalizing a with
    | nil => exact ha
    | cons e es ih =>
      have he := h e (by simp)
      apply ih (fun e' he' => h e' (by simp [he'])) _
      dsimp only
      split_ifs <;> omega
  exact hg 0 (Nat.zero_le _)

theorem mem_entries_of_lookup {pending : GoMap Nat} {e : Σ _ : String, Nat}
    (h : e ∈ pending.entries) : pending.lookup e.1 = some e.2 := AList.mem_lookup_iff.mpr h

/-- A public call on a coordinator, or the timer: neither its life cycle nor its worker. -/
def RefreshOp.Reports : RefreshOp → Prop
  | .start _ | .stop | .takeWork | .finishWork _ | .exit => False
  | _ => True

theorem RefreshCoordinator.Unwritten.step {α : Type*} {f : RefreshCoordinator → α}
    (h : RefreshCoordinator.Unwritten f) (s : RefreshSystem) {e : RefreshEvent}
    (he : e.op.Reports) : f (s.step e).coordinator = f s.coordinator := by
  rcases e with ⟨op, env⟩
  cases op with
  | notify reason => exact h.notify _ reason env
  | setPaused paused => exact h.setPaused _ paused env
  | setStreamCovered y covered => exact h.setStreamCovered _ y covered env
  | setStreamLive y live needsFullRefresh => exact h.setStreamLive _ y live needsFullRefresh env
  | invalidateStream y reason => exact h.invalidateStream _ y reason env
  | handleTimer => exact h.handleTimer _ env
  | _ => exact he.elim

namespace RefreshSystem

/-- What every reachable state satisfies: the counter is ahead of everything, the work in hand is a
non-empty batch with its own maximum, and `inFlight` says whether there is one. -/
structure Inv (s : RefreshSystem) : Prop where
  sequenced : s.coordinator.Sequenced
  inFlight : s.coordinator.inFlight = s.work.isSome
  work_le : ∀ w, s.work = some w → w.batch.sequence ≤ s.coordinator.sequence
  work_entries : ∀ w, s.work = some w → ∀ k n, w.pending.lookup k = some n → n ≤ w.batch.sequence
  work_nonempty : ∀ w, s.work = some w → GoMap.isEmpty w.pending = false

variable {s : RefreshSystem}

/-- A call that only advances the coordinator keeps the invariant. -/
theorem Inv.of_advances (h : s.Inv) {c : RefreshCoordinator} (hc : s.coordinator.Advances c) :
    ({ s with coordinator := c }).Inv :=
  ⟨hc.sequenced, hc.inFlight.trans h.inFlight, fun w hw => (h.work_le w hw).trans hc.sequence,
    h.work_entries, h.work_nonempty⟩

open RefreshCoordinator in
theorem takeWorkLocked_some {c c' : RefreshCoordinator} {now : Time} {w : RefreshWork}
    (h : c.takeWorkLocked now = some (w, c')) :
    c.inFlight = false ∧ GoMap.isEmpty c.pending = false ∧ w.pending = c.pending ∧
    w.batch.sequence = maxSequence c.pending.entries ∧
    c' = { c with pending := ∅, debounceStartedAt := 0, debounceNotBefore := 0, inFlight := true,
                  lastAttemptAt := now } := by
  simp only [takeWorkLocked] at h
  split_ifs at h with hn
  simp only [Bool.or_eq_true, decide_eq_true_eq, not_or, Bool.not_eq_true] at hn
  obtain ⟨⟨⟨⟨-, hf⟩, hp⟩, -⟩, -⟩ := hn
  simp only [Option.some.injEq, Prod.mk.injEq] at h
  obtain ⟨rfl, rfl⟩ := h
  exact ⟨hf, hp, rfl, rfl, rfl⟩

/-- A take leaves the coordinator as it is, or empties its queue. -/
theorem step_takeWork (s : RefreshSystem) (env : CallEnv) :
    (s.step ⟨.takeWork, env⟩).coordinator = s.coordinator ∨
    (s.step ⟨.takeWork, env⟩).coordinator =
      { s.coordinator with
        pending := ∅, debounceStartedAt := 0, debounceNotBefore := 0, inFlight := true,
        lastAttemptAt := env.now } := by
  unfold RefreshSystem.step
  dsimp only
  cases ht : s.coordinator.takeWorkLocked env.now with
  | none => exact .inl rfl
  | some p =>
    obtain ⟨-, -, -, -, hc⟩ := takeWorkLocked_some ht
    exact .inr hc

theorem Inv.take (h : s.Inv) {now : Time} {w : RefreshWork} {c : RefreshCoordinator}
    (ht : s.coordinator.takeWorkLocked now = some (w, c)) :
    ({ coordinator := c, work := some w } : RefreshSystem).Inv := by
  obtain ⟨-, hp, hw, hb, rfl⟩ := takeWorkLocked_some ht
  have hle : maxSequence s.coordinator.pending.entries ≤ s.coordinator.sequence :=
    maxSequence_le (fun e he => h.sequenced.pending e.1 e.2 (mem_entries_of_lookup he))
  refine ⟨⟨by simp, h.sequenced.repair, h.sequenced.covered⟩, rfl, ?_, ?_, ?_⟩
  · rintro _ ⟨⟩
    exact hb ▸ hle
  · rintro _ ⟨⟩ k n hk
    rw [hw] at hk
    exact hb ▸ le_maxSequence hk
  · rintro _ ⟨⟩
    rwa [hw]

theorem repairStream_eq (sequence : Nat) (state : RefreshStreamState) :
    RefreshCoordinator.repairStream sequence state =
      { state with repaired := state.repaired || (state.covered && state.live &&
          state.repairSequence != 0 && decide (state.repairSequence ≤ sequence)) } := by
  rcases state with ⟨covered, live, repaired, n⟩
  cases covered <;> cases live <;> cases repaired <;>
    simp [RefreshCoordinator.repairStream]
  split_ifs <;> simp_all

theorem Inv.finish (h : s.Inv) {w : RefreshWork} (hw : s.work = some w)
    (err : Option RefreshError) (env : CallEnv) :
    ({ coordinator := s.coordinator.finishWork w err env } : RefreshSystem).Inv := by
  have none_work {c : RefreshCoordinator} (hc : c.Sequenced) (hf : c.inFlight = false) :
      ({ coordinator := c } : RefreshSystem).Inv :=
    ⟨hc, hf, by simp, by simp, by simp⟩
  cases err with
  | some err =>
    let c : RefreshCoordinator := { s.coordinator with
      inFlight := false, lastReasons := w.reasons,
      lastDuration := if timeSub env.now w.batch.startedAt < 0 then 0
        else timeSub env.now w.batch.startedAt }
    have hc : c.Sequenced := ⟨h.sequenced.pending, h.sequenced.repair, h.sequenced.covered⟩
    have hr := hc.advances.requeue w.pending.entries (fun e he =>
      (h.work_entries w hw e.1 e.2 (mem_entries_of_lookup he)).trans (h.work_le w hw))
    exact none_work ⟨hr.sequenced.pending, hr.sequenced.repair, hr.sequenced.covered⟩ hr.inFlight
  | none =>
    refine none_work ⟨h.sequenced.pending, ?_, ?_⟩ rfl
    · intro x
      change (RefreshCoordinator.repairStream w.batch.sequence
        (s.coordinator.streams x)).repairSequence ≤ s.coordinator.sequence
      rw [repairStream_eq]
      exact h.sequenced.repair x
    · intro x hx
      change (RefreshCoordinator.repairStream w.batch.sequence
        (s.coordinator.streams x)).covered = true at hx
      change 0 < (RefreshCoordinator.repairStream w.batch.sequence
        (s.coordinator.streams x)).repairSequence
      rw [repairStream_eq] at hx ⊢
      exact h.sequenced.covered x hx

/-- A report leaves the worker alone and only advances the coordinator. -/
theorem Inv.advances (h : s.Inv) {e : RefreshEvent} (he : e.op.Reports) :
    s.coordinator.Advances (s.step e).coordinator ∧ (s.step e).work = s.work := by
  have ha := h.sequenced.advances
  rcases e with ⟨op, env⟩
  cases op with
  | notify reason => exact ⟨ha.notify reason env, rfl⟩
  | setPaused paused => exact ⟨ha.setPaused paused env, rfl⟩
  | setStreamCovered y covered => exact ⟨ha.setStreamCovered y covered env, rfl⟩
  | setStreamLive y live needsFullRefresh =>
    exact ⟨ha.setStreamLive y live needsFullRefresh env, rfl⟩
  | invalidateStream y reason => exact ⟨ha.invalidateStream y reason env, rfl⟩
  | handleTimer => exact ⟨ha.handleTimer env, rfl⟩
  | _ => exact he.elim

theorem Inv.of_reports (h : s.Inv) {e : RefreshEvent} (he : e.op.Reports) : (s.step e).Inv := by
  obtain ⟨ha, hw⟩ := h.advances he
  have hi := h.of_advances ha
  rwa [← hw] at hi

theorem Inv.step (h : s.Inv) (e : RefreshEvent) : (s.step e).Inv := by
  have ha := h.sequenced.advances
  rcases e with ⟨op, env⟩
  cases op with
  | start hasContext =>
    unfold RefreshSystem.step RefreshCoordinator.start
    dsimp only
    split_ifs
    · exact h
    · exact h
    · exact h
    · have hc : s.coordinator.Advances { s.coordinator with started := true, running := true } :=
        ⟨⟨ha.sequenced.pending, ha.sequenced.repair, ha.sequenced.covered⟩, le_rfl, rfl⟩
      exact h.of_advances ((hc.enqueue _).reset _ _)
  | stop =>
    exact h.of_advances ⟨⟨h.sequenced.pending, h.sequenced.repair, h.sequenced.covered⟩, le_rfl, rfl⟩
  | takeWork =>
    unfold RefreshSystem.step
    dsimp only
    cases ht : s.coordinator.takeWorkLocked env.now with
    | none => exact h
    | some p => exact h.take ht
  | finishWork err =>
    unfold RefreshSystem.step
    dsimp only
    cases hw : s.work with
    | none => exact h
    | some w => exact h.finish hw err env
  | exit =>
    change (if s.work.isNone then { s with coordinator := s.coordinator.exit } else s).Inv
    split_ifs with hw
    · have hn : s.work = none := by simpa using hw
      exact ⟨⟨h.sequenced.pending, h.sequenced.repair, h.sequenced.covered⟩,
        by simp [hn, RefreshCoordinator.exit], by simp [hn], by simp [hn], by simp [hn]⟩
    · exact h
  | _ =>
    apply h.of_reports
    trivial

end RefreshSystem

end Meshd.Engine

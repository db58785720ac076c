import Meshd.Engine.Refresh.Repair

namespace Meshd.Engine

open Meshd.Framework

/-- The map holds an entry of the reason at the given sequence or later. -/
def Owed (pending : GoMap Nat) (reason : RefreshReason) (sequence : Nat) : Prop :=
  ∃ n, pending.lookup reason = some n ∧ sequence ≤ n

namespace Owed

variable {pending : GoMap Nat} {k : RefreshReason} {n : Nat}

/-- No enqueue lowers or removes an entry. -/
theorem enqueue (h : Owed pending k n) (reason : RefreshReason) (sequence : Nat) :
    Owed (enqueuePending pending reason sequence) k n := by
  obtain ⟨m, hm, hn⟩ := h
  by_cases hk : k = reason
  · refine ⟨max sequence m, ?_, by omega⟩
    rw [lookup_enqueuePending, if_pos hk, hm]
    rfl
  · exact ⟨m, by rw [lookup_enqueuePending, if_neg hk, hm], hn⟩

theorem enqueue_self (pending : GoMap Nat) (k : RefreshReason) (n : Nat) :
    Owed (enqueuePending pending k n) k n := by
  refine ⟨max n ((pending.lookup k).getD 0), ?_, Nat.le_max_left _ _⟩
  rw [lookup_enqueuePending, if_pos rfl]

theorem erase (h : Owed pending k n) {reason : RefreshReason} (hk : k ≠ reason) :
    Owed (pending.erase reason) k n := by
  obtain ⟨m, hm, hn⟩ := h
  exact ⟨m, by rw [AList.lookup_erase_ne hk, hm], hn⟩

theorem requeue (h : Owed pending k n) (entries : List (Σ _ : String, Nat)) :
    Owed (entries.foldl (fun p item => enqueuePending p (pendingKey item.1) item.2) pending)
      k n := by
  induction entries generalizing pending with
  | nil => exact h
  | cons e es ih => exact ih (h.enqueue _ _)

/-- Whatever a failed batch held is owed again. -/
theorem requeue_mem {entries : List (Σ _ : String, Nat)} {e : Σ _ : String, Nat}
    (he : e ∈ entries) (hn : n ≤ e.2) (pending : GoMap Nat) :
    Owed (entries.foldl (fun p item => enqueuePending p (pendingKey item.1) item.2) pending)
      (pendingKey e.1) n := by
  induction entries generalizing pending with
  | nil => cases he
  | cons e' es ih =>
    rcases List.mem_cons.mp he with rfl | he
    · obtain ⟨m, hm, hle⟩ := enqueue_self pending (pendingKey e.1) e.2
      exact Owed.requeue ⟨m, hm, by omega⟩ es
    · exact ih he _

theorem not_empty (h : Owed pending k n) : GoMap.isEmpty pending = false := by
  obtain ⟨m, hm, -⟩ := h
  exact GoMap.isEmpty_false_of_lookup hm

theorem of_not_empty (h : GoMap.isEmpty pending = false) : ∃ k, Owed pending k 0 := by
  obtain ⟨k, m, hm⟩ := GoMap.exists_lookup_of_not_empty h
  exact ⟨k, m, hm, Nat.zero_le _⟩

theorem of_erase_not_empty {reason : RefreshReason}
    (h : GoMap.isEmpty (pending.erase reason) = false) : ∃ k, k ≠ reason ∧ Owed pending k 0 := by
  obtain ⟨k, m, hm⟩ := GoMap.exists_lookup_of_not_empty h
  have hk : k ≠ reason := by
    intro heq
    subst heq
    simp at hm
  exact ⟨k, hk, m, by rwa [AList.lookup_erase_ne hk] at hm, Nat.zero_le _⟩

end Owed

theorem reasonForStream_eq (x : RefreshStream) : reasonForStream x = x := by
  simp only [reasonForStream]
  split_ifs with ht hd
  · exact ht.symm
  · exact hd.symm
  · rfl

theorem pendingKey_reasonForStream {x : RefreshStream} (hx : x ≠ "") :
    pendingKey (reasonForStream x) = reasonForStream x := by
  rw [reasonForStream_eq, pendingKey_of_ne hx]

namespace RefreshCoordinator

variable (c : RefreshCoordinator) {x y : RefreshStream} {n : Nat}

/-- The stream is live and stale, so a rebuild has to be on its way. -/
def Stale (x : RefreshStream) : Prop :=
  (c.streams x).covered = true ∧ (c.streams x).live = true ∧ (c.streams x).repaired = false

/-- The rebuild of the stream is queued at its repair sequence or later. -/
def Queued (x : RefreshStream) : Prop :=
  Owed c.pending (reasonForStream x) (c.streams x).repairSequence

theorem enqueueAtLocked_owed (hx : x ≠ "") :
    Owed (c.enqueueAtLocked (reasonForStream x) n).pending (reasonForStream x) n := by
  simp only [enqueueAtLocked]
  rw [pendingKey_reasonForStream hx]
  exact Owed.enqueue_self _ _ _

theorem queueRepair_queued (hx : x ≠ "") (wasLive : Bool) :
    (c.queueRepair x wasLive).Queued x := by
  simp only [queueRepair]
  exact enqueueAtLocked_owed _ hx

theorem reportLive_live (x : RefreshStream) (live needsFullRefresh : Bool) :
    ((c.reportLive x live needsFullRefresh).streams x).live = live := by
  unfold reportLive
  dsimp only
  split_ifs <;> simp

/-- A report that leaves its own stream live and stale queues the repair. -/
theorem setStreamLive_queued (hx : x ≠ "") (live needsFullRefresh : Bool) (env : CallEnv)
    (hs : c.stopped = false) (h : (c.setStreamLive x live needsFullRefresh env).Stale x) :
    (c.setStreamLive x live needsFullRefresh env).Queued x := by
  have hl := c.reportLive_live x live needsFullRefresh
  have hq := (c.reportLive x live needsFullRefresh).queueRepair_queued hx (c.streams x).live
  simp only [setStreamLive] at h ⊢
  simp only [hs, Bool.false_eq_true, if_false] at h ⊢
  by_cases hr : (live && ((c.reportLive x live needsFullRefresh).streams x).covered &&
      !((c.reportLive x live needsFullRefresh).streams x).repaired) = true
  · simp only [hr, if_true] at h ⊢
    split_ifs
    · exact hq
    · exact hq
  · simp only [hr, Bool.false_eq_true, if_false] at h
    have hst : (c.reportLive x live needsFullRefresh).Stale x := by
      split_ifs at h
      · exact h
      · exact h
    have hlive : live = true := hl.symm.trans hst.2.1
    subst hlive
    simp [hst.1, hst.2.2] at hr

theorem setStreamCovered_queued (hx : x ≠ "") (covered : Bool) (env : CallEnv)
    (hs : c.stopped = false) (hc : (c.streams x).covered ≠ covered)
    (h : (c.setStreamCovered x covered env).Stale x) :
    (c.setStreamCovered x covered env).Queued x := by
  simp only [setStreamCovered] at h ⊢
  simp only [hs, hc, Bool.false_eq_true, if_false] at h ⊢
  cases covered with
  | false => simp [Stale] at h
  | true =>
    simp only [Bool.not_true, Bool.false_eq_true, if_false] at h ⊢
    split_ifs with hl
    · exact enqueueAtLocked_owed _ hx
    · rw [if_neg hl] at h
      exact absurd h.2.1 hl

theorem invalidateStream_queued (hx : x ≠ "") {reason : RefreshReason}
    (hr : reason = "" ∨ reason = reasonForStream x) (env : CallEnv) (hs : c.stopped = false)
    (h : (c.invalidateStream x reason env).Stale x) :
    (c.invalidateStream x reason env).Queued x := by
  have hown : (if reason = "" then reasonForStream x else reason) = reasonForStream x := by
    rcases hr with rfl | rfl
    · simp
    · split_ifs <;> rfl
  simp only [invalidateStream] at h ⊢
  simp only [hs, hown, Bool.false_eq_true, if_false] at h ⊢
  split_ifs with hl
  · have he := (c.markStale x).enqueueAtLocked_owed (n := ((c.markStale x).streams x).repairSequence) hx
    simpa [Queued] using he
  · rw [if_neg hl] at h
    exact absurd (Bool.and_eq_true_iff.mpr ⟨h.1, h.2.1⟩) hl

section Others
variable {c} {k : RefreshReason} (h : Owed c.pending k n)
include h

/-- A progress gap drops the entry of its own stream, and a report drops nothing else. -/
theorem reportLive_owed {live needsFullRefresh : Bool}
    (hk : needsFullRefresh = true → live = false → k ≠ reasonForStream y) :
    Owed (c.reportLive y live needsFullRefresh).pending k n := by
  unfold reportLive
  dsimp only
  split_ifs with hneeds hlive
  · rw [dropPending_pending]
    exact h.erase (hk hneeds (by simpa using hlive))
  · exact h
  · exact h

theorem setStreamLive_owed {live needsFullRefresh : Bool}
    (hk : needsFullRefresh = true → live = false → k ≠ reasonForStream y) (env : CallEnv) :
    Owed (c.setStreamLive y live needsFullRefresh env).pending k n := by
  have hr := reportLive_owed h hk
  have hq (wasLive : Bool) :
      Owed ((c.reportLive y live needsFullRefresh).queueRepair y wasLive).pending k n := by
    simp only [queueRepair]
    split_ifs
    · exact hr.enqueue _ _
    · exact hr.enqueue _ _
  unfold setStreamLive
  dsimp only
  split_ifs
  · exact h
  · exact hq _
  · exact hr
  · exact hq _
  · exact hr

theorem setStreamCovered_owed {covered : Bool}
    (hk : covered = false → k ≠ reasonForStream y) (env : CallEnv) :
    Owed (c.setStreamCovered y covered env).pending k n := by
  unfold setStreamCovered
  dsimp only
  split_ifs with _ _ hcov
  · exact h
  · exact h
  · rw [resetPeriodicLocked_pending, dropPending_pending]
    exact h.erase (hk (by simpa using hcov))
  · exact h.enqueue _ _
  · exact h

end Others

/-- An invalidation removes nothing, not even an entry of its own stream. -/
theorem invalidateStream_owed {k : RefreshReason} (h : Owed c.pending k n) (y : RefreshStream)
    (reason : RefreshReason) (env : CallEnv) :
    Owed (c.invalidateStream y reason env).pending k n := by
  unfold invalidateStream
  dsimp only
  split_ifs
  · exact h
  all_goals simp only [resetPeriodicLocked_pending, deferPendingLocked_pending]
  · exact h.enqueue _ _
  · exact h.enqueue _ _
  · exact h

section Enqueues
variable {c} {k : RefreshReason} (h : Owed c.pending k n) (env : CallEnv)
include h

theorem start_owed {hasContext : Bool} {c' : RefreshCoordinator}
    (hc : c.start hasContext env = .ok c') : Owed c'.pending k n := by
  simp only [start] at hc
  split_ifs at hc
  cases hc
  exact h.enqueue _ _

theorem notify_owed (reason : RefreshReason) : Owed (c.notify reason env).pending k n := by
  simp only [notify]
  split_ifs
  · exact h
  · rw [deferPendingLocked_pending]
    exact h.enqueue _ _

theorem setPaused_owed (paused : Bool) : Owed (c.setPaused paused env).pending k n := by
  unfold setPaused
  dsimp only
  split_ifs
  · exact h
  · rw [deferPendingLocked_pending]
    exact h.enqueue _ _
  · exact h

theorem handleTimer_owed : Owed (c.handleTimer env).pending k n := by
  simp only [handleTimer]
  split_ifs
  · exact h.enqueue _ _
  · exact h

end Enqueues

theorem finishWork_err_pending (w : RefreshWork) (err : RefreshError) (env : CallEnv) :
    (c.finishWork w (some err) env).pending = w.pending.entries.foldl
      (fun p item => enqueuePending p (pendingKey item.1) item.2) c.pending := by
  simp only [finishWork]
  simp only [requeue_eq]

/-- After a failure the queue holds what the batch held, the empty reason as a manual one. -/
theorem finishWork_err_requeued (w : RefreshWork) (err : RefreshError) (env : CallEnv)
    {k : RefreshReason} (h : Owed w.pending k n) :
    Owed (c.finishWork w (some err) env).pending (pendingKey k) n := by
  rw [finishWork_err_pending]
  obtain ⟨m, hm, hn⟩ := h
  exact Owed.requeue_mem (e := ⟨k, m⟩) (AList.mem_lookup_iff.mp hm) hn _

/-- After a failure the queue holds what it held and what the batch held. -/
theorem finishWork_err_owed (w : RefreshWork) (err : RefreshError) (env : CallEnv)
    {k : RefreshReason} (hk : k ≠ "") (h : Owed c.pending k n ∨ Owed w.pending k n) :
    Owed (c.finishWork w (some err) env).pending k n := by
  rcases h with h | h
  · rw [finishWork_err_pending]
    exact h.requeue _
  · rw [← pendingKey_of_ne hk]
    exact c.finishWork_err_requeued w err env h

/-- A stream that is stale after a success was stale before it, beyond the reach of the batch. -/
theorem stale_finishWork (hseq : c.Sequenced) (w : RefreshWork) (env : CallEnv)
    (h : (c.finishWork w none env).Stale x) :
    c.Stale x ∧ w.batch.sequence < (c.streams x).repairSequence ∧
    ((c.finishWork w none env).streams x).repairSequence = (c.streams x).repairSequence := by
  have hstream : (c.finishWork w none env).streams x = { c.streams x with
      repaired := (c.streams x).repaired || ((c.streams x).covered && (c.streams x).live &&
        (c.streams x).repairSequence != 0 &&
        decide ((c.streams x).repairSequence ≤ w.batch.sequence)) } :=
    RefreshSystem.repairStream_eq w.batch.sequence (c.streams x)
  simp only [Stale] at h ⊢
  rw [hstream] at h ⊢
  obtain ⟨hc, hl, hr⟩ := h
  dsimp only at hc hl hr ⊢
  have hpos := hseq.covered x hc
  refine ⟨⟨hc, hl, (Bool.or_eq_false_iff.mp hr).1⟩, ?_, rfl⟩
  simpa [hc, hl, hpos.ne'] using (Bool.or_eq_false_iff.mp hr).2

theorem finishWork_err_not_empty {w : RefreshWork} (hw : GoMap.isEmpty w.pending = false)
    (err : RefreshError) (env : CallEnv) :
    GoMap.isEmpty (c.finishWork w (some err) env).pending = false := by
  rw [finishWork_err_pending]
  cases hes : w.pending.entries with
  | nil => simp [GoMap.isEmpty, hes] at hw
  | cons e es => exact ((Owed.enqueue_self c.pending (pendingKey e.1) e.2).requeue es).not_empty

end RefreshCoordinator

namespace RefreshSystem

variable {s : RefreshSystem} {x : RefreshStream}

/-- The rebuild of the stream is queued, or part of the refresh in flight. -/
def Scheduled (s : RefreshSystem) (x : RefreshStream) : Prop :=
  s.coordinator.Queued x ∨
  ∃ w, s.work = some w ∧
    Owed w.pending (reasonForStream x) (s.coordinator.streams x).repairSequence

/-- Invalidations name their stream's own reason, or leave it to the coordinator. -/
def OwnReason (_ : RefreshSystem) (e : RefreshEvent) : Prop :=
  match e.op with
  | .invalidateStream y reason => reason = "" ∨ reason = reasonForStream y
  | _ => True

/-- Every live and stale stream has its rebuild scheduled. -/
def NoLostRepair (s : RefreshSystem) : Prop :=
  ∀ x, x ≠ "" → s.coordinator.Stale x → s.Scheduled x

/-- A call that leaves the stream alone and the queue no poorer leaves the rebuild scheduled. -/
theorem Scheduled.of_owed {c : RefreshCoordinator} (h : s.Scheduled x)
    (hst : c.streams x = s.coordinator.streams x)
    (hp : ∀ n, Owed s.coordinator.pending (reasonForStream x) n →
      Owed c.pending (reasonForStream x) n) :
    ({ s with coordinator := c }).Scheduled x := by
  rcases h with hq | ⟨w, hw, ho⟩
  · refine .inl ?_
    simp only [RefreshCoordinator.Queued]
    rw [hst]
    exact hp _ hq
  · exact .inr ⟨w, hw, by rwa [hst]⟩

theorem NoLostRepair.of_owed {c : RefreshCoordinator} (h : s.NoLostRepair)
    (hst : c.streams = s.coordinator.streams)
    (hp : ∀ k n, Owed s.coordinator.pending k n → Owed c.pending k n) :
    ({ s with coordinator := c }).NoLostRepair := by
  intro x hx hs
  have hs' : s.coordinator.Stale x := by
    simp only [RefreshCoordinator.Stale] at hs ⊢
    rwa [hst] at hs
  exact (h x hx hs').of_owed (congrFun hst x) (hp _)

/-- A stream call that settles its own stream and spares the others. -/
theorem NoLostRepair.of_stream {c : RefreshCoordinator} (h : s.NoLostRepair) (y : RefreshStream)
    (hself : y ≠ "" → c.Stale y → c.Queued y)
    (hst : ∀ x, x ≠ y → c.streams x = s.coordinator.streams x)
    (hp : ∀ k n, k ≠ reasonForStream y → Owed s.coordinator.pending k n → Owed c.pending k n) :
    ({ s with coordinator := c }).NoLostRepair := by
  intro x hx hs
  by_cases hy : x = y
  · subst hy
    exact .inl (hself hx hs)
  · have hs' : s.coordinator.Stale x := by
      simp only [RefreshCoordinator.Stale] at hs ⊢
      rwa [hst x hy] at hs
    refine (h x hx hs').of_owed (hst x hy) (fun n => hp _ n ?_)
    rwa [reasonForStream_eq, reasonForStream_eq]

theorem NoLostRepair.take (h : s.NoLostRepair) (hi : s.Inv) {now : Time} {w : RefreshWork}
    {c : RefreshCoordinator} (ht : s.coordinator.takeWorkLocked now = some (w, c)) :
    ({ coordinator := c, work := some w } : RefreshSystem).NoLostRepair := by
  obtain ⟨hf, -, hw, -, rfl⟩ := takeWorkLocked_some ht
  intro x hx hs
  refine .inr ⟨w, rfl, ?_⟩
  rcases h x hx hs with hq | ⟨w', hw', -⟩
  · rw [hw]
    exact hq
  · rw [hi.inFlight, hw'] at hf
    cases hf

/-- A success takes away only entries it has answered: a stream the batch does not repair was
invalidated after the take and is queued again. -/
theorem NoLostRepair.finish (h : s.NoLostRepair) (hi : s.Inv) {w : RefreshWork}
    (hw : s.work = some w) (err : Option RefreshError) (env : CallEnv) :
    ({ coordinator := s.coordinator.finishWork w err env } : RefreshSystem).NoLostRepair := by
  intro x hx hs
  refine .inl ?_
  cases err with
  | some err =>
    simp only [RefreshCoordinator.Stale] at hs
    simp only [RefreshCoordinator.Queued]
    simp only [RefreshCoordinator.finishWork_err_streams] at hs ⊢
    apply s.coordinator.finishWork_err_owed w err env
    · rwa [reasonForStream_eq]
    · rcases h x hx hs with hq | ⟨w', hw', ho⟩
      · exact .inl hq
      · obtain rfl : w' = w := Option.some.inj (hw'.symm.trans hw)
        exact .inr ho
  | none =>
    obtain ⟨hst, hlt, heq⟩ := s.coordinator.stale_finishWork hi.sequenced w env hs
    simp only [RefreshCoordinator.Queued]
    rw [heq]
    rcases h x hx hst with hq | ⟨w', hw', n, hn, hle⟩
    · exact hq
    · have := hi.work_entries w' hw' _ n hn
      obtain rfl : w' = w := Option.some.inj (hw'.symm.trans hw)
      omega

theorem NoLostRepair.step (h : s.NoLostRepair) (hi : s.Inv) {e : RefreshEvent}
    (he : s.OwnReason e) : (s.step e).NoLostRepair := by
  rcases e with ⟨op, env⟩
  cases op with
  | start hasContext =>
    unfold RefreshSystem.step
    dsimp only
    cases hc : s.coordinator.start hasContext env with
    | error _ => exact h
    | ok c =>
      exact h.of_owed (RefreshCoordinator.start_streams _ env hc)
        (fun k n ho => RefreshCoordinator.start_owed ho env hc)
  | stop => exact h
  | notify reason =>
    exact h.of_owed (RefreshCoordinator.notify_streams _ env reason)
      (fun k n ho => RefreshCoordinator.notify_owed ho env reason)
  | setPaused paused =>
    exact h.of_owed (RefreshCoordinator.setPaused_streams _ env paused)
      (fun k n ho => RefreshCoordinator.setPaused_owed ho env paused)
  | handleTimer =>
    exact h.of_owed (RefreshCoordinator.handleTimer_streams _ env)
      (fun k n ho => RefreshCoordinator.handleTimer_owed ho env)
  | setStreamCovered y covered =>
    by_cases hn : s.coordinator.stopped = true ∨ (s.coordinator.streams y).covered = covered
    · change ({ s with coordinator := s.coordinator.setStreamCovered y covered env }).NoLostRepair
      rwa [RefreshCoordinator.setStreamCovered_of_same hn]
    · rw [not_or, Bool.not_eq_true] at hn
      exact h.of_stream y
        (fun hy hs => s.coordinator.setStreamCovered_queued hy covered env hn.1 hn.2 hs)
        (fun x hx => s.coordinator.setStreamCovered_ne x y covered env hx)
        (fun k n hk ho => RefreshCoordinator.setStreamCovered_owed ho (fun _ => hk) env)
  | setStreamLive y live needsFullRefresh =>
    cases hn : s.coordinator.stopped with
    | true =>
      change ({ s with
        coordinator := s.coordinator.setStreamLive y live needsFullRefresh env }).NoLostRepair
      rwa [RefreshCoordinator.setStreamLive_of_stopped hn]
    | false =>
      exact h.of_stream y
        (fun hy hs => s.coordinator.setStreamLive_queued hy live needsFullRefresh env hn hs)
        (fun x hx => s.coordinator.setStreamLive_ne x y live needsFullRefresh env hx)
        (fun k n hk ho => RefreshCoordinator.setStreamLive_owed ho (fun _ _ => hk) env)
  | invalidateStream y reason =>
    cases hn : s.coordinator.stopped with
    | true =>
      change ({ s with
        coordinator := s.coordinator.invalidateStream y reason env }).NoLostRepair
      rwa [RefreshCoordinator.invalidateStream_of_stopped hn]
    | false =>
      exact h.of_stream y
        (fun hy hs => s.coordinator.invalidateStream_queued hy he env hn hs)
        (fun x hx => s.coordinator.invalidateStream_ne x y reason env hx)
        (fun k n _ ho => s.coordinator.invalidateStream_owed ho y reason env)
  | takeWork =>
    unfold RefreshSystem.step
    dsimp only
    cases ht : s.coordinator.takeWorkLocked env.now with
    | none => exact h
    | some p => exact h.take hi ht
  | finishWork err =>
    unfold RefreshSystem.step
    dsimp only
    cases hw : s.work with
    | none => exact h
    | some w => exact h.finish hi hw err env
  | exit =>
    unfold RefreshSystem.step
    dsimp only
    split_ifs
    · exact h
    · exact h

/-- No repair is lost: along a run whose invalidations carry their stream's own reason, a covered
and live stream that is not repaired has its rebuild queued or in flight. The empty name is no
stream: its reason would be filed as a manual one. -/
theorem stale_stream_scheduled {cfg : RefreshCoordinatorConfig} {c : RefreshCoordinator}
    (hc : newRefreshCoordinator cfg = .ok c) {es : List RefreshEvent}
    (hown : Along step OwnReason { coordinator := c } es) {x : RefreshStream} (hx : x ≠ "")
    (hs : (exec step { coordinator := c } es).coordinator.Stale x) :
    (exec step { coordinator := c } es).Scheduled x := by
  have hf := newRefreshCoordinator_fresh hc
  have h := along_history (P := fun _ s => s.Inv ∧ s.NoLostRepair)
    ⟨.init hf, fun x _ hx => by simp [RefreshCoordinator.Stale, hf.streams] at hx⟩
    (fun es e he ⟨hi, hn⟩ => ⟨hi.step e, hn.step hi he⟩) es hown
  exact h.2 x hx hs

/-- A delivery stream that comes up and is invalidated while the first refresh runs. -/
def deliveryInvalidated : List RefreshEvent :=
  [⟨.start true, { now := 1 }⟩, ⟨.setStreamCovered refreshStreamDelivery true, { now := 2 }⟩,
    ⟨.setStreamLive refreshStreamDelivery true false, { now := 3 }⟩, ⟨.takeWork, { now := 4 }⟩,
    ⟨.invalidateStream refreshStreamDelivery refreshReasonDelivery, { now := 5 }⟩,
    ⟨.finishWork none, { now := 6 }⟩]

theorem stale_stream_scheduled_delivery :
    (exec step { coordinator := defaultCoordinator } deliveryInvalidated).coordinator.Stale
      refreshStreamDelivery ∧
    (exec step { coordinator := defaultCoordinator } deliveryInvalidated).Scheduled
      refreshStreamDelivery := by
  have hs : (exec step { coordinator := defaultCoordinator } deliveryInvalidated).coordinator.Stale
      refreshStreamDelivery := by
    refine ⟨?_, ?_, ?_⟩ <;> decide
  refine ⟨hs, stale_stream_scheduled newRefreshCoordinator_default ?_ (by decide) hs⟩
  intro k e he
  have hmem := List.mem_of_getElem? he
  simp only [deliveryInvalidated, List.mem_cons, List.not_mem_nil, or_false] at hmem
  rcases hmem with rfl | rfl | rfl | rfl | rfl | rfl
  all_goals first | trivial | exact .inr rfl

end RefreshSystem

end Meshd.Engine

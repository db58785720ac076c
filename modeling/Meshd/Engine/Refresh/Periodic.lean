import Meshd.Engine.Refresh.Scheduled

namespace Meshd.Engine

open Meshd.Framework

namespace RefreshCoordinator

/-- Nothing queued and no refresh in flight: only the periodic timer brings the next rebuild. -/
def Idle (c : RefreshCoordinator) : Prop := GoMap.isEmpty c.pending = true ∧ c.inFlight = false

/-- The configured intervals, as the jitter stretches them, stay below `B`. -/
structure IntervalsBelow (c : RefreshCoordinator) (B : Duration) (jitter : Duration → Duration) :
    Prop where
  nonneg : 0 ≤ B
  fallback : jitter c.fallbackInterval ≤ B
  healthy : jitter c.healthyInterval ≤ B

theorem resetPeriodicLocked_le {c : RefreshCoordinator} {B : Duration}
    {jitter : Duration → Duration} (h : c.IntervalsBelow B jitter) (now : Time) :
    (c.resetPeriodicLocked now jitter).nextPeriodicAt ≤ now + B := by
  have hj : jitter c.currentIntervalLocked ≤ B := by
    simp only [currentIntervalLocked]
    split_ifs
    · exact h.healthy
    · exact h.fallback
  have hB := h.nonneg
  unfold resetPeriodicLocked
  dsimp only
  split_ifs <;> lia

end RefreshCoordinator

/-- A coordinator with the clock readings the bound is about: its start, and the end of the last
refresh. -/
structure ObservedSystem where
  system : RefreshSystem
  startedAt : Time := 0
  finishedAt : Option Time := none

namespace ObservedSystem

def step (o : ObservedSystem) (e : RefreshEvent) : ObservedSystem :=
  let system := o.system.step e
  { system,
    startedAt := if !o.system.coordinator.started && system.coordinator.started then e.env.now
      else o.startedAt,
    finishedAt := if o.system.work.isSome && system.work.isNone then some e.env.now
      else o.finishedAt }

/-- The later of the start and the last finished refresh. -/
def lastTurn (o : ObservedSystem) : Time :=
  match o.finishedAt with
  | some t => max o.startedAt t
  | none => o.startedAt

/-- In a started and idle state the timer is at most `B` away from the last turn. -/
def PollsWithin (o : ObservedSystem) (B : Duration) : Prop :=
  o.system.coordinator.started = true → o.system.coordinator.Idle →
    o.system.coordinator.nextPeriodicAt ≤ o.lastTurn + B

/-- A stream call that re-arms the timer of a started coordinator does so only with a refresh in
flight, or with work in the queue once the call is done: its own repair, or other work that it
does not drop. -/
def RearmsWithWork (s : RefreshSystem) (e : RefreshEvent) : Prop :=
  let c := s.coordinator
  c.started = false ∨ c.stopped = true ∨ c.inFlight = true ∨
  match e.op with
  | .setStreamCovered y covered =>
    (c.streams y).covered = covered ∨
    if covered = true then (c.streams y).live = true ∨ GoMap.isEmpty c.pending = false
    else GoMap.isEmpty (c.pending.erase (reasonForStream y)) = false
  | .setStreamLive y live needsFullRefresh =>
    ((c.streams y).live = live ∧ needsFullRefresh = false) ∨
    (live = true ∧ (c.streams y).covered = true ∧
      (needsFullRefresh = true ∨ (c.streams y).repaired = false)) ∨
    if needsFullRefresh = true ∧ live = false then
      GoMap.isEmpty (c.pending.erase (reasonForStream y)) = false
    else GoMap.isEmpty c.pending = false
  | .invalidateStream y _ =>
    ((c.streams y).covered = true ∧ (c.streams y).live = true) ∨ GoMap.isEmpty c.pending = false
  | _ => True

end ObservedSystem

namespace RefreshCoordinator

variable (c : RefreshCoordinator)

theorem not_idle_of_pending {c : RefreshCoordinator} (h : GoMap.isEmpty c.pending = false) :
    ¬ c.Idle := by
  intro hi
  rw [hi.1] at h
  cases h

/-- A call after which the coordinator is idle found it idle, and left the timer alone. -/
def Quiet (c c' : RefreshCoordinator) : Prop :=
  c'.Idle → c.Idle ∧ c'.nextPeriodicAt = c.nextPeriodicAt

variable {c} {y : RefreshStream}

theorem Quiet.refl (c : RefreshCoordinator) : Quiet c c := fun h => ⟨h, rfl⟩

theorem Quiet.of_pending {c' : RefreshCoordinator} (h : GoMap.isEmpty c'.pending = false) :
    Quiet c c' := fun hi => absurd hi (not_idle_of_pending h)

theorem Quiet.of_inFlight {c' : RefreshCoordinator} (h : c'.inFlight = true) : Quiet c c' := by
  intro hi
  rw [hi.2] at h
  cases h

theorem isEmpty_enqueueLocked (reason : RefreshReason) :
    GoMap.isEmpty (c.enqueueLocked reason).pending = false := isEmpty_enqueuePending _ _ _

theorem quiet_notify (reason : RefreshReason) (env : CallEnv) : Quiet c (c.notify reason env) := by
  simp only [notify]
  split_ifs
  · exact Quiet.refl c
  · apply Quiet.of_pending
    rw [deferPendingLocked_pending]
    exact isEmpty_enqueueLocked _

theorem quiet_setPaused (paused : Bool) (env : CallEnv) : Quiet c (c.setPaused paused env) := by
  unfold setPaused
  dsimp only
  split_ifs
  · exact Quiet.refl c
  · apply Quiet.of_pending
    rw [deferPendingLocked_pending]
    exact isEmpty_enqueueLocked _
  · exact fun h => ⟨h, rfl⟩

theorem quiet_handleTimer (env : CallEnv) : Quiet c (c.handleTimer env) := by
  simp only [handleTimer]
  split_ifs
  · exact Quiet.of_pending (isEmpty_enqueueLocked _)
  · exact Quiet.refl c

theorem isEmpty_queueRepair (y : RefreshStream) (wasLive : Bool) :
    GoMap.isEmpty (c.queueRepair y wasLive).pending = false := by
  simp only [queueRepair]
  exact isEmpty_enqueuePending _ _ _

/-- A report that keeps the flag and needs no full refresh re-arms nothing. -/
theorem quiet_setStreamLive_same {live : Bool} (h : (c.streams y).live = live) (env : CallEnv) :
    Quiet c (c.setStreamLive y live false env) := by
  simp only [setStreamLive]
  simp only [h, bne_self_eq_false, Bool.or_self, Bool.false_eq_true, if_false]
  split_ifs
  · exact Quiet.refl c
  · exact Quiet.of_pending (isEmpty_queueRepair y live)
  · exact fun hi => ⟨hi, rfl⟩

/-- A report that brings a stale covered stream up queues its repair. -/
theorem quiet_setStreamLive_repair {needsFullRefresh : Bool} (hs : c.stopped = false)
    (hc : (c.streams y).covered = true)
    (hr : needsFullRefresh = true ∨ (c.streams y).repaired = false) (env : CallEnv) :
    Quiet c (c.setStreamLive y true needsFullRefresh env) := by
  have hcond : (true && ((c.reportLive y true needsFullRefresh).streams y).covered &&
      !((c.reportLive y true needsFullRefresh).streams y).repaired) = true := by
    simp only [reportLive]
    cases needsFullRefresh with
    | true => simp [hc]
    | false => simpa [hc] using hr
  simp only [setStreamLive]
  simp only [hs, hcond, Bool.false_eq_true, if_false, if_true]
  split_ifs
  · exact Quiet.of_pending (isEmpty_queueRepair y _)
  · exact Quiet.of_pending (isEmpty_queueRepair y _)

theorem quiet_setStreamCovered_live (hs : c.stopped = false) (hc : (c.streams y).covered = false)
    (hl : (c.streams y).live = true) (env : CallEnv) : Quiet c (c.setStreamCovered y true env) := by
  apply Quiet.of_pending
  simp only [setStreamCovered]
  simp only [hs, hc, Bool.false_eq_true, if_false, Bool.not_true, modifyStream_self, markStale_self,
    hl, if_true, resetPeriodicLocked_pending]
  exact isEmpty_enqueuePending _ _ _

theorem quiet_invalidateStream_live (hs : c.stopped = false) (hc : (c.streams y).covered = true)
    (hl : (c.streams y).live = true) (reason : RefreshReason) (env : CallEnv) :
    Quiet c (c.invalidateStream y reason env) := by
  apply Quiet.of_pending
  simp only [invalidateStream]
  simp only [hs, hc, hl, Bool.false_eq_true, if_false, markStale_self, Bool.and_self, if_true,
    resetPeriodicLocked_pending, deferPendingLocked_pending]
  exact isEmpty_enqueuePending _ _ _

/-- A repaired stream that drops or resumes without a gap queues nothing: only the timer moves. -/
theorem setStreamLive_repaired {live : Bool} (hs : c.stopped = false)
    (hr : (c.streams y).repaired = true) (hl : (c.streams y).live ≠ live) (env : CallEnv) :
    c.setStreamLive y live false env =
      (c.modifyStream y fun state => { state with live := live }).resetPeriodicLocked env.now
        env.jitter := by
  simp only [setStreamLive, reportLive]
  simp [hs, hr, hl]

/-- With the topology stream uncovered the fallback interval applies. -/
theorem nextPeriodicAt_uncovered
    (ht : (c.streams refreshStreamTopology).covered = false) (now : Time) :
    (c.resetPeriodicLocked now id).nextPeriodicAt =
      now + (if c.fallbackInterval < 0 then 0 else c.fallbackInterval) := by
  simp only [resetPeriodicLocked, currentIntervalLocked, streamsHealthyLocked]
  simp [ht]

end RefreshCoordinator

namespace ObservedSystem

open RefreshCoordinator

/-- Under the condition no stream call moves the timer of an idle coordinator. -/
theorem RearmsWithWork.quiet_setStreamLive {s : RefreshSystem} (hi : s.Inv) {y : RefreshStream}
    {live needsFullRefresh : Bool} {env : CallEnv}
    (h : RearmsWithWork s ⟨.setStreamLive y live needsFullRefresh, env⟩)
    (hs : s.coordinator.started = true) :
    Quiet s.coordinator (s.coordinator.setStreamLive y live needsFullRefresh env) := by
  by_cases hstop : s.coordinator.stopped = true
  · rw [setStreamLive_of_stopped hstop]
    exact Quiet.refl _
  by_cases hflight : s.coordinator.inFlight = true
  · apply Quiet.of_inFlight
    rw [(hi.sequenced.advances.setStreamLive y live needsFullRefresh env).inFlight, hflight]
  simp only [RearmsWithWork] at h
  simp only [hs, hstop, hflight, Bool.true_eq_false, Bool.false_eq_true, false_or] at h
  rw [Bool.not_eq_true] at hstop
  rcases h with ⟨hl, rfl⟩ | ⟨rfl, hc, hr⟩ | h
  · exact quiet_setStreamLive_same hl env
  · exact quiet_setStreamLive_repair hstop hc hr env
  · split_ifs at h with hgap
    · obtain ⟨k, hk, ho⟩ := Owed.of_erase_not_empty h
      exact Quiet.of_pending (setStreamLive_owed ho (fun _ _ => hk) env).not_empty
    · obtain ⟨k, ho⟩ := Owed.of_not_empty h
      exact Quiet.of_pending
        (setStreamLive_owed ho (fun hn hl => absurd ⟨hn, hl⟩ hgap) env).not_empty

theorem RearmsWithWork.quiet_setStreamCovered {s : RefreshSystem} (hi : s.Inv)
    {y : RefreshStream} {covered : Bool} {env : CallEnv}
    (h : RearmsWithWork s ⟨.setStreamCovered y covered, env⟩)
    (hs : s.coordinator.started = true) :
    Quiet s.coordinator (s.coordinator.setStreamCovered y covered env) := by
  by_cases hstop : s.coordinator.stopped = true ∨ (s.coordinator.streams y).covered = covered
  · rw [setStreamCovered_of_same hstop]
    exact Quiet.refl _
  rw [not_or, Bool.not_eq_true] at hstop
  obtain ⟨hstop, hcov⟩ := hstop
  by_cases hflight : s.coordinator.inFlight = true
  · apply Quiet.of_inFlight
    rw [(hi.sequenced.advances.setStreamCovered y covered env).inFlight, hflight]
  simp only [RearmsWithWork] at h
  simp only [hs, hstop, hflight, hcov, Bool.true_eq_false, Bool.false_eq_true, false_or] at h
  split_ifs at h with hc
  · subst hc
    rcases h with hl | h
    · exact quiet_setStreamCovered_live hstop (by simpa using hcov) hl env
    · obtain ⟨k, ho⟩ := Owed.of_not_empty h
      exact Quiet.of_pending (setStreamCovered_owed ho (by simp) env).not_empty
  · obtain ⟨k, hk, ho⟩ := Owed.of_erase_not_empty h
    exact Quiet.of_pending (setStreamCovered_owed ho (fun _ => hk) env).not_empty

theorem RearmsWithWork.quiet_invalidateStream {s : RefreshSystem} (hi : s.Inv)
    {y : RefreshStream} {reason : RefreshReason} {env : CallEnv}
    (h : RearmsWithWork s ⟨.invalidateStream y reason, env⟩)
    (hs : s.coordinator.started = true) :
    Quiet s.coordinator (s.coordinator.invalidateStream y reason env) := by
  by_cases hstop : s.coordinator.stopped = true
  · rw [invalidateStream_of_stopped hstop]
    exact Quiet.refl _
  by_cases hflight : s.coordinator.inFlight = true
  · apply Quiet.of_inFlight
    rw [(hi.sequenced.advances.invalidateStream y reason env).inFlight, hflight]
  simp only [RearmsWithWork] at h
  simp only [hs, hstop, hflight, Bool.true_eq_false, Bool.false_eq_true, false_or] at h
  rw [Bool.not_eq_true] at hstop
  rcases h with ⟨hc, hl⟩ | h
  · exact quiet_invalidateStream_live hstop hc hl reason env
  · obtain ⟨k, ho⟩ := Owed.of_not_empty h
    exact Quiet.of_pending (s.coordinator.invalidateStream_owed ho y reason env).not_empty

/-- What every reachable state of such a run satisfies. The timer of an idle coordinator was
armed by the refresh that left it idle. -/
structure Bounded (o : ObservedSystem) (c₀ : RefreshCoordinator) (B : Duration) : Prop where
  inv : o.system.Inv
  intervals : o.system.coordinator.fallbackInterval = c₀.fallbackInterval ∧
    o.system.coordinator.healthyInterval = c₀.healthyInterval
  polls : o.system.coordinator.started = true → o.system.coordinator.Idle →
    ∃ t, o.finishedAt = some t ∧ o.system.coordinator.nextPeriodicAt ≤ t + B

variable {o : ObservedSystem} {c₀ : RefreshCoordinator} {B : Duration} {e : RefreshEvent}
  {env : CallEnv}

theorem Bounded.pollsWithin (h : o.Bounded c₀ B) : o.PollsWithin B := by
  intro hs hi
  obtain ⟨t, ht, hle⟩ := h.polls hs hi
  simp only [lastTurn]
  rw [ht]
  have hmax : t ≤ max o.startedAt t := le_max_right _ _
  lia

/-- A quiet call of the coordinator that keeps its setup. -/
theorem Bounded.of_quiet (h : o.Bounded c₀ B) {c : RefreshCoordinator}
    (he : o.system.step e = { o.system with coordinator := c })
    (hset : c.fallbackInterval = o.system.coordinator.fallbackInterval ∧
      c.healthyInterval = o.system.coordinator.healthyInterval ∧
      c.started = o.system.coordinator.started)
    (hq : o.system.coordinator.started = true → Quiet o.system.coordinator c) :
    (o.step e).Bounded c₀ B := by
  have hc : (o.step e).system.coordinator = c := by
    change (o.system.step e).coordinator = c
    rw [he]
  have hf : (o.step e).finishedAt = o.finishedAt := by
    cases hw : o.system.work <;> simp [ObservedSystem.step, he, hw]
  refine ⟨h.inv.step e, ?_, ?_⟩
  · rw [hc]
    exact ⟨hset.1.trans h.intervals.1, hset.2.1.trans h.intervals.2⟩
  · rw [hc, hf]
    intro hs hi
    have hs' : o.system.coordinator.started = true := hset.2.2.symm.trans hs
    obtain ⟨hi', hn⟩ := hq hs' hi
    rw [hn]
    exact h.polls hs' hi'

theorem Bounded.same (h : o.Bounded c₀ B) (he : o.system.step e = o.system) :
    (o.step e).Bounded c₀ B :=
  h.of_quiet (c := o.system.coordinator) he ⟨rfl, rfl, rfl⟩ (fun _ => Quiet.refl _)

theorem Bounded.finish (h : o.Bounded c₀ B) {w : RefreshWork} (hw : o.system.work = some w)
    (err : Option RefreshError) (hB : c₀.IntervalsBelow B env.jitter) :
    (o.step ⟨.finishWork err, env⟩).Bounded c₀ B := by
  have he : o.system.step ⟨.finishWork err, env⟩ =
      { coordinator := o.system.coordinator.finishWork w err env, work := none } := by
    simp only [RefreshSystem.step]
    simp only [hw]
  have hf : (o.step ⟨.finishWork err, env⟩).finishedAt = some env.now := by
    simp [ObservedSystem.step, he, hw]
  have hc : (o.step ⟨.finishWork err, env⟩).system.coordinator =
      o.system.coordinator.finishWork w err env := by
    change (o.system.step _).coordinator = _
    rw [he]
  have hset := setup_eq (o.system.coordinator.finishWork_setup w err env)
  refine ⟨h.inv.step ⟨.finishWork err, env⟩, ?_, ?_⟩
  · rw [hc]
    exact ⟨hset.1.trans h.intervals.1, hset.2.1.trans h.intervals.2⟩
  · rw [hc, hf]
    intro _ hi
    refine ⟨env.now, rfl, ?_⟩
    cases err with
    | none =>
      refine resetPeriodicLocked_le ⟨hB.nonneg, ?_, ?_⟩ env.now
      · exact h.intervals.1 ▸ hB.fallback
      · exact h.intervals.2 ▸ hB.healthy
    | some err =>
      -- a failed batch is never empty and is queued again
      exact absurd hi (not_idle_of_pending
        (o.system.coordinator.finishWork_err_not_empty (h.inv.work_nonempty w hw) err env))

theorem Bounded.start (h : o.Bounded c₀ B) (hasContext : Bool) (env : CallEnv) :
    (o.step ⟨.start hasContext, env⟩).Bounded c₀ B := by
  cases hc : o.system.coordinator.start hasContext env with
  | error _ =>
    apply h.same
    simp only [RefreshSystem.step, hc]
  | ok c =>
    have he : o.system.step ⟨.start hasContext, env⟩ = { o.system with coordinator := c } := by
      simp only [RefreshSystem.step, hc]
    have hcoord : (o.step ⟨.start hasContext, env⟩).system.coordinator = c := by
      change (o.system.step _).coordinator = _
      rw [he]
    refine ⟨h.inv.step ⟨.start hasContext, env⟩, ?_, ?_⟩
    all_goals rw [hcoord]
    all_goals unfold RefreshCoordinator.start at hc
    all_goals split_ifs at hc
    all_goals cases hc
    · exact h.intervals
    · exact fun _ hi => absurd hi (not_idle_of_pending (isEmpty_enqueueLocked _))

/-- The take either starts a refresh or does nothing, and the exit ends no refresh. -/
theorem Bounded.take (h : o.Bounded c₀ B) (env : CallEnv) :
    (o.step ⟨.takeWork, env⟩).Bounded c₀ B := by
  cases ht : o.system.coordinator.takeWorkLocked env.now with
  | none =>
    apply h.same
    simp only [RefreshSystem.step, ht]
  | some p =>
    have he : o.system.step ⟨.takeWork, env⟩ = { coordinator := p.2, work := some p.1 } := by
      simp only [RefreshSystem.step, ht]
    have hcoord : (o.step ⟨.takeWork, env⟩).system.coordinator = p.2 := by
      change (o.system.step _).coordinator = _
      rw [he]
    obtain ⟨-, -, -, -, hp⟩ := RefreshSystem.takeWorkLocked_some ht
    refine ⟨h.inv.step ⟨.takeWork, env⟩, ?_, ?_⟩
    all_goals rw [hcoord, hp]
    · exact h.intervals
    · exact fun _ hi => absurd hi.2 (by simp)

theorem Bounded.exit (h : o.Bounded c₀ B) (env : CallEnv) :
    (o.step ⟨.exit, env⟩).Bounded c₀ B := by
  cases hw : o.system.work with
  | some w =>
    apply h.same
    simp [RefreshSystem.step, hw]
  | none =>
    have hf : o.system.coordinator.inFlight = false := by
      rw [h.inv.inFlight, hw]
      rfl
    refine h.of_quiet (c := o.system.coordinator.exit) ?_ ⟨rfl, rfl, rfl⟩
      (fun _ hi => ⟨⟨hi.1, hf⟩, rfl⟩)
    simp [RefreshSystem.step, hw]

theorem Bounded.step (h : o.Bounded c₀ B) (hw : RearmsWithWork o.system e)
    (hB : c₀.IntervalsBelow B e.env.jitter) : (o.step e).Bounded c₀ B := by
  rcases e with ⟨op, env⟩
  cases op with
  | start hasContext => exact h.start hasContext env
  | stop =>
    exact h.of_quiet (c := o.system.coordinator.stop) rfl ⟨rfl, rfl, rfl⟩
      (fun _ hi => ⟨hi, rfl⟩)
  | notify reason =>
    exact h.of_quiet rfl (started_eq (unwritten_setup.notify _ reason env))
      (fun _ => quiet_notify reason env)
  | setPaused paused =>
    exact h.of_quiet rfl (started_eq (unwritten_setup.setPaused _ paused env))
      (fun _ => quiet_setPaused paused env)
  | setStreamCovered y covered =>
    exact h.of_quiet rfl (started_eq (unwritten_setup.setStreamCovered _ y covered env))
      (hw.quiet_setStreamCovered h.inv)
  | setStreamLive y live needsFullRefresh =>
    exact h.of_quiet rfl (started_eq (unwritten_setup.setStreamLive _ y live needsFullRefresh env))
      (hw.quiet_setStreamLive h.inv)
  | invalidateStream y reason =>
    exact h.of_quiet rfl (started_eq (unwritten_setup.invalidateStream _ y reason env))
      (hw.quiet_invalidateStream h.inv)
  | handleTimer =>
    exact h.of_quiet rfl (started_eq (unwritten_setup.handleTimer _ env))
      (fun _ => quiet_handleTimer env)
  | takeWork => exact h.take env
  | finishWork err =>
    cases hwork : o.system.work with
    | some w => exact h.finish hwork err hB
    | none =>
      apply h.same
      simp only [RefreshSystem.step, hwork]
  | exit => exact h.exit env

/-- The fallback poll is bounded along every run whose stream calls re-arm the timer only with
work queued or in flight: `B` is any bound on the jittered intervals. -/
theorem pollsWithin_of_rearmsWithWork {cfg : RefreshCoordinatorConfig} {c : RefreshCoordinator}
    (hc : newRefreshCoordinator cfg = .ok c) {B : Duration} {es : List RefreshEvent}
    (hB : ∀ e ∈ es, c.IntervalsBelow B e.env.jitter)
    (hw : Along step (fun o e => RearmsWithWork o.system e) { system := { coordinator := c } } es)
    (k : Nat) : (stateAt step { system := { coordinator := c } } es k).PollsWithin B := by
  have hf := newRefreshCoordinator_fresh hc
  have hinit : Bounded { system := { coordinator := c } } c B :=
    ⟨.init hf, ⟨rfl, rfl⟩, fun hs => by simp [hf.started] at hs⟩
  have hb : Along step (fun o e => RearmsWithWork o.system e ∧ c.IntervalsBelow B e.env.jitter)
      { system := { coordinator := c } } (es.take k) := by
    intro j e he
    exact ⟨hw.take k j e he, hB e (List.mem_of_mem_take (List.mem_of_getElem? he))⟩
  have h := along_history (P := fun _ o => o.Bounded c B) hinit
    (fun es e he ho => ho.step he.1 he.2) (es.take k) hb
  exact h.pollsWithin

theorem pollsWithin_topologyRepair :
    (stateAt step { system := { coordinator := defaultCoordinator } } RefreshSystem.topologyRepair
      5).system.coordinator.Idle ∧
    (stateAt step { system := { coordinator := defaultCoordinator } } RefreshSystem.topologyRepair
      5).PollsWithin (5 * minute) := by
  refine ⟨⟨by decide, by decide⟩,
    pollsWithin_of_rearmsWithWork newRefreshCoordinator_default ?_ ?_ 5⟩
  · intro e he
    simp only [RefreshSystem.topologyRepair, List.mem_cons, List.not_mem_nil, or_false] at he
    rcases he with rfl | rfl | rfl | rfl | rfl
    all_goals exact ⟨by decide, by decide, by decide⟩
  · refine along_cons.mpr ⟨.inl rfl, along_cons.mpr ⟨?_, along_cons.mpr ⟨?_, along_cons.mpr
      ⟨?_, along_cons.mpr ⟨?_, along_nil⟩⟩⟩⟩⟩
    · exact .inr (.inr (.inr (.inr (.inr (by decide)))))
    · exact .inr (.inr (.inr (.inr (.inl ⟨rfl, by decide, .inr (by decide)⟩))))
    · exact .inr (.inr (.inr trivial))
    · exact .inr (.inr (.inr trivial))

/-- The worker answers the timer when it is due. -/
def Timely (o : ObservedSystem) (e : RefreshEvent) : Prop :=
  o.system.coordinator.started = true →
    e.env.now < o.system.coordinator.nextPeriodicAt ∨ e.op = .handleTimer

/-- The delivery stream drops and resumes every ten seconds, without a gap. -/
def flaps : Nat → Time → List RefreshEvent
  | 0, _ => []
  | n + 1, t =>
    ⟨.setStreamLive refreshStreamDelivery false false, { now := t }⟩ ::
    ⟨.setStreamLive refreshStreamDelivery true false, { now := t + 5 * second }⟩ ::
    flaps n (t + 10 * second)

/-- The topology stream is never covered. The delivery stream comes up and is repaired. -/
def deliveryRepair : List RefreshEvent :=
  [⟨.start true, { now := second }⟩,
    ⟨.setStreamCovered refreshStreamDelivery true, { now := second }⟩,
    ⟨.setStreamLive refreshStreamDelivery true false, { now := second }⟩,
    ⟨.takeWork, { now := second }⟩, ⟨.finishWork none, { now := 2 * second }⟩]

/-- Between two changes of its flag: idle, with the timer re-armed by the last one at `t`. -/
structure Flapping (o : ObservedSystem) (live : Bool) (t : Time) : Prop where
  started : o.system.coordinator.started = true
  stopped : o.system.coordinator.stopped = false
  idle : o.system.coordinator.Idle
  delivery : o.system.coordinator.streams refreshStreamDelivery = ⟨true, live, true, 3⟩
  topology : (o.system.coordinator.streams refreshStreamTopology).covered = false
  fallback : o.system.coordinator.fallbackInterval = 30 * second
  next : o.system.coordinator.nextPeriodicAt = t + 30 * second
  turn : o.lastTurn = 2 * second

theorem flapping_deliveryRepair : Flapping (exec step
    { system := { coordinator := defaultCoordinator } } deliveryRepair) true (2 * second) := by
  refine ⟨?_, ?_, ⟨?_, ?_⟩, ?_, ?_, ?_, ?_, ?_⟩
  all_goals rfl

/-- One change of the delivery stream's flag, and what it leaves as it was. -/
theorem step_flap {o : ObservedSystem} (live : Bool) (now : Time)
    (hs : o.system.coordinator.stopped = false)
    (hr : (o.system.coordinator.streams refreshStreamDelivery).repaired = true)
    (hl : (o.system.coordinator.streams refreshStreamDelivery).live ≠ live) :
    o.step ⟨.setStreamLive refreshStreamDelivery live false, { now := now }⟩ =
      { o with system := { o.system with
          coordinator := (o.system.coordinator.modifyStream refreshStreamDelivery fun state =>
            { state with live := live }).resetPeriodicLocked now id } } := by
  unfold ObservedSystem.step RefreshSystem.step
  simp only [setStreamLive_repaired hs hr hl]
  cases hw : o.system.work with
  | none => simp [resetPeriodicLocked, modifyStream]
  | some w => simp [resetPeriodicLocked, modifyStream]

theorem Flapping.flap {o : ObservedSystem} {live : Bool} (live' : Bool) {t : Time}
    (h : Flapping o live t) (hl : live ≠ live') (now : Time) :
    Flapping (o.step ⟨.setStreamLive refreshStreamDelivery live' false, { now := now }⟩)
      live' now := by
  have hne : refreshStreamTopology ≠ refreshStreamDelivery := by decide
  rw [step_flap live' now h.stopped (by rw [h.delivery]) (by rw [h.delivery]; exact hl)]
  have ht : ((o.system.coordinator.modifyStream refreshStreamDelivery fun state =>
      { state with live := live' }).streams refreshStreamTopology).covered = false := by
    rw [modifyStream_ne _ _ _ _ hne]
    exact h.topology
  refine ⟨h.started, h.stopped, h.idle, ?_, ht, h.fallback, ?_, h.turn⟩
  · simp only [resetPeriodicLocked_streams, modifyStream_self, h.delivery]
  · have hf : (o.system.coordinator.modifyStream refreshStreamDelivery fun state =>
        { state with live := live' }).fallbackInterval = 30 * second := h.fallback
    rw [nextPeriodicAt_uncovered ht, hf]
    rfl

/-- However long the stream flaps, the timer never comes due and keeps moving on. -/
theorem Flapping.flaps {o : ObservedSystem} {t : Time} (h : Flapping o true t) (n : Nat) :
    Flapping (exec step o (flaps n (t + 5 * second))) true (t + n * (10 * second)) ∧
    Along step Timely o (ObservedSystem.flaps n (t + 5 * second)) := by
  have hs : 0 < second := by decide
  induction n generalizing o t with
  | zero =>
    refine ⟨?_, along_nil⟩
    simpa [ObservedSystem.flaps] using h
  | succ n ih =>
    have hdown := h.flap false (by decide) (t + 5 * second)
    have hup := hdown.flap true (by decide) (t + 5 * second + 5 * second)
    obtain ⟨hn, ha⟩ := ih hup
    have ht : t + 5 * second + 5 * second + 5 * second = t + 5 * second + 10 * second := by lia
    rw [ht] at hn ha
    refine ⟨?_, along_cons.mpr ⟨fun _ => .inl ?_, along_cons.mpr ⟨fun _ => .inl ?_, ha⟩⟩⟩
    · have hend : t + 5 * second + 5 * second + n * (10 * second) =
          t + ((n + 1 : Nat) : Int) * (10 * second) := by
        push_cast
        lia
      rw [ObservedSystem.flaps, exec_cons, exec_cons, ← hend]
      exact hn
    · rw [h.next]
      change t + 5 * second < t + 30 * second
      lia
    · rw [hdown.next]
      change t + 5 * second + 5 * second < t + 5 * second + 30 * second
      lia

/-- A run that never pauses, draws no jitter and has a clock that does not go back. -/
structure PlainRun (es : List RefreshEvent) : Prop where
  unpaused : ∀ e ∈ es, ∀ paused, e.op ≠ .setPaused paused
  jitter : ∀ e ∈ es, e.env.jitter = id
  clock : es.IsChain (fun e f => e.env.now ≤ f.env.now)

theorem plainRun_flaps (n : Nat) {t : Time} (ht : e.env.now ≤ t)
    (hp : ∀ paused, e.op ≠ .setPaused paused) (hj : e.env.jitter = id) :
    PlainRun (e :: flaps n t) := by
  have hs : 0 < second := by decide
  induction n generalizing e t with
  | zero => exact ⟨by simpa [flaps] using hp, by simpa [flaps] using hj, by simp [flaps]⟩
  | succ n ih =>
    have hn := ih (e := ⟨.setStreamLive refreshStreamDelivery true false,
      { now := t + 5 * second }⟩) (t := t + 10 * second)
      (by change t + 5 * second ≤ t + 10 * second; lia) (by simp) rfl
    rw [flaps]
    refine ⟨?_, ?_, ?_⟩
    · intro f hf
      rcases List.mem_cons.mp hf with rfl | hf
      · exact hp
      rcases List.mem_cons.mp hf with rfl | hf
      · simp
      · exact hn.unpaused f hf
    · intro f hf
      rcases List.mem_cons.mp hf with rfl | hf
      · exact hj
      rcases List.mem_cons.mp hf with rfl | hf
      · rfl
      · exact hn.jitter f hf
    · refine List.isChain_cons_cons.mpr ⟨ht, List.isChain_cons_cons.mpr ⟨?_, hn.clock⟩⟩
      change t ≤ t + 5 * second
      lia

theorem PlainRun.cons {f : RefreshEvent} {es : List RefreshEvent} (h : PlainRun (f :: es))
    (ht : e.env.now ≤ f.env.now) (hp : ∀ paused, e.op ≠ .setPaused paused)
    (hj : e.env.jitter = id) : PlainRun (e :: f :: es) :=
  ⟨List.forall_mem_cons.mpr ⟨hp, h.unpaused⟩, List.forall_mem_cons.mpr ⟨hj, h.jitter⟩,
    List.isChain_cons_cons.mpr ⟨ht, h.clock⟩⟩

theorem plainRun_deliveryRepair_flaps (n : Nat) :
    PlainRun (deliveryRepair ++ flaps n (2 * second + 5 * second)) := by
  have hlast : PlainRun (⟨.finishWork none, { now := 2 * second }⟩ ::
      flaps n (2 * second + 5 * second)) := plainRun_flaps n (by decide) (by simp) rfl
  exact ((((hlast.cons (e := ⟨.takeWork, { now := second }⟩) (by decide) (by simp) rfl).cons
    (le_refl second) (by simp) rfl).cons (le_refl second) (by simp) rfl).cons (le_refl second)
    (by simp) rfl)

theorem timely_deliveryRepair :
    Along step Timely { system := { coordinator := defaultCoordinator } } deliveryRepair := by
  refine along_cons.mpr ⟨fun h => ?_, along_cons.mpr ⟨fun _ => .inl ?_, along_cons.mpr
    ⟨fun _ => .inl ?_, along_cons.mpr ⟨fun _ => .inl ?_, along_cons.mpr
    ⟨fun _ => .inl ?_, along_nil⟩⟩⟩⟩⟩
  · cases h
  all_goals decide

/-- No bound serves the runs of the default configuration: a delivery stream that drops and
resumes often enough moves the timer on for ever, while the uncovered topology stream waits for
it. -/
theorem polling_unbounded :
    ¬ ∃ B : Duration, ∀ es : List RefreshEvent, PlainRun es →
      Along step Timely { system := { coordinator := defaultCoordinator } } es →
      (exec step { system := { coordinator := defaultCoordinator } } es).PollsWithin B := by
  intro h
  obtain ⟨B, hB⟩ := h
  obtain ⟨hf, ha⟩ := flapping_deliveryRepair.flaps B.toNat
  have hle := hB _ (plainRun_deliveryRepair_flaps B.toNat) (along_append.mpr
    ⟨timely_deliveryRepair, ha⟩)
  rw [exec_append] at hle
  have hn := hle hf.started hf.idle
  rw [hf.next, hf.turn] at hn
  have hB' : B ≤ (B.toNat : Int) * (10 * second) := calc
    B ≤ (B.toNat : Int) := Int.self_le_toNat B
    _ = (B.toNat : Int) * 1 := (Int.mul_one _).symm
    _ ≤ (B.toNat : Int) * (10 * second) :=
      Int.mul_le_mul_of_nonneg_left (by decide) (Int.natCast_nonneg _)
  have hs : 0 < second := by decide
  lia

end ObservedSystem

end Meshd.Engine

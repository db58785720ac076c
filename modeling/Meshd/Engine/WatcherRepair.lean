import Meshd.Engine.WatcherSync

namespace Meshd.Engine

open Meshd.Framework

namespace SubscriptionWatcher

/-- An event message or a progress gap of the stream reaches the watcher. -/
def Delivers (x : RefreshStream) (w : SubscriptionWatcher) (e : WatcherEvent) : Prop :=
  w.locked = false ∧
  match e with
  | .message y type _ => x = y ∧ type = some "event"
  | .lifecycle y kind _ _ => x = y ∧ kind = .progressGap
  | _ => False

/-- The worker of the coordinator with this number takes the batch `v`. -/
def TakesIn (n : Nat) (v : RefreshWork) (w : SubscriptionWatcher) (e : WatcherEvent) : Prop :=
  ∃ s event, w.Holds n s ∧ e = .refresh n event ∧ s.Takes event v

/-- The worker finishes `v` without error, with the stream covered and live. -/
def SucceedsIn (n : Nat) (v : RefreshWork) (x : RefreshStream) (w : SubscriptionWatcher)
    (e : WatcherEvent) : Prop :=
  ∃ s event, w.Holds n s ∧ e = .refresh n event ∧ s.Succeeds event v ∧
    (s.coordinator.streams x).covered = true ∧ (s.coordinator.streams x).live = true

/-- The facts of one coordinator, with what reached the watcher as the invalidations: also what
came while another coordinator was attached, or none. -/
def Accounted (es : List WatcherEvent) (n : Nat) (s : RefreshSystem) : Prop :=
  s.RepairFacts (fun i v => EventAt step {} es i (TakesIn n v))
    (fun j v x => EventAt step {} es j (SucceedsIn n v x))
    (fun x k => EventAt step {} es k (Delivers x))

variable {es : List WatcherEvent} {e : WatcherEvent} {n : Nat} {s : RefreshSystem}

theorem Accounted.keep (h : Accounted es n s)
    (hd : ∀ x, ¬ Delivers x (exec step {} es) e) : Accounted (es ++ [e]) n s := by
  apply h.mono (fun i v hi => hi.concat) (fun j v x hj => hj.concat)
  intro x k hk
  rcases hk.of_concat with hk | ⟨-, hk⟩
  · exact hk
  · exact absurd hk (hd x)

/-- The coordinator handles `event` as part of the watcher's step. -/
theorem Accounted.handle {event : RefreshEvent} (h : Accounted es n s)
    (ht : ∀ v, s.Takes event v → TakesIn n v (exec step {} es) e)
    (hf : ∀ v x, s.Succeeds event v → (s.coordinator.streams x).covered = true →
      (s.coordinator.streams x).live = true → SucceedsIn n v x (exec step {} es) e)
    (hd : ∀ x, Delivers x (exec step {} es) e → s.Invalidates event x) :
    Accounted (es ++ [e]) n (s.step event) := by
  apply RefreshSystem.RepairFacts.step (n := es.length) h
  exact {
    taken_mono := fun i v hi => hi.concat
    taken_lt := fun i v hi => hi.lt_length
    take := fun v hv => EventAt.last (ht v hv)
    finished_mono := fun j v x hj => hj.concat
    finish := fun v x hv hc hl => EventAt.last (hf v x hv hc hl)
    invalid_lt := fun x k hk => hk.lt_length
    invalidate := fun x k hk => hk.of_concat.imp_right (fun h => hd x h.2) }

/-- The same for a call that neither takes nor finishes work. -/
theorem Accounted.call {op : RefreshOp} {env : CallEnv} (h : Accounted es n s)
    (ht : op ≠ .takeWork) (hf : op ≠ .finishWork none)
    (hd : ∀ x, Delivers x (exec step {} es) e → s.Invalidates ⟨op, env⟩ x) :
    Accounted (es ++ [e]) n (s.step ⟨op, env⟩) :=
  h.handle (fun _ hv => absurd hv.1 ht) (fun _ _ hv => absurd hv.1 hf) hd

/-- The two invariants together, for the run so far. -/
structure Sound (es : List WatcherEvent) (w : SubscriptionWatcher) : Prop where
  inStep : w.InStep
  accounted : ∀ n s, w.Holds n s → Accounted es n s

/-- A step that changes no coordinator the watcher holds. -/
theorem Sound.keep {w' : SubscriptionWatcher} (h : Sound es (exec step {} es)) (hw : w'.InStep)
    (hh : ∀ n s, w'.Holds n s → (exec step {} es).Holds n s)
    (hd : ∀ x, ¬ Delivers x (exec step {} es) e) : Sound (es ++ [e]) w' :=
  ⟨hw, fun n s hs => (h.accounted n s (hh n s hs)).keep hd⟩

/-- A call on the attached coordinator with the lock free. -/
theorem Sound.call {w' : SubscriptionWatcher} (op : RefreshOp) (env : CallEnv)
    (h : Sound es (exec step {} es)) (hw : w'.InStep)
    (hco : w'.coordinator = ((exec step {} es).call ⟨op, env⟩).coordinator)
    (hin : w'.incoming = none) (ht : op ≠ .takeWork) (hf : op ≠ .finishWork none)
    (hd : ∀ x (s : RefreshSystem), s.coordinator.stopped = false → Delivers x (exec step {} es) e →
      s.Invalidates ⟨op, env⟩ x) : Sound (es ++ [e]) w' := by
  refine ⟨hw, ?_⟩
  intro n s' hs
  rcases hs with hs | hs
  · obtain ⟨s, hold, rfl⟩ := call_coordinator (hco ▸ hs)
    have hrun := h.inStep.running n s (.inl hold)
    exact (h.accounted n s (.inl hold)).call ht hf (fun x hx => hd x s hrun hx)
  · rw [hin] at hs
    cases hs

theorem Sound.proceed (h : Sound es (exec step {} es)) (env : CallEnv) :
    Sound (es ++ [.proceed env]) ((exec step {} es).proceed env) := by
  have hw := h.inStep.proceed env
  have hd (x : RefreshStream) : ¬ Delivers x (exec step {} es) (.proceed env) := fun hx => hx.2
  rcases hc : (exec step {} es).calls with _ | ⟨op, calls⟩
  · rcases hi : (exec step {} es).incoming with _ | p
    · rw [proceed_unlocked hc hi] at hw ⊢
      exact h.keep hw (fun n s hs => hs) hd
    · rw [proceed_assign hc hi] at hw ⊢
      refine h.keep hw ?_ hd
      intro n s hs
      rcases hs with hs | hs
      · exact .inr (hi.trans hs)
      · cases hs
  have hop := h.inStep.calls op (by simp [hc])
  have ht : op ≠ .takeWork := by
    intro heq
    subst heq
    exact hop
  have hf : op ≠ .finishWork none := by
    intro heq
    subst heq
    exact hop
  rcases hi : (exec step {} es).incoming with _ | p
  · rw [proceed_attached hc hi] at hw ⊢
    exact h.call op env hw rfl hi ht hf (fun x s _ hx => absurd hx (hd x))
  · rw [proceed_incoming hc hi] at hw ⊢
    refine ⟨hw, ?_⟩
    intro n s' hs
    rcases hs with hs | hs
    · exact (h.accounted n s' (.inl hs)).keep hd
    · obtain ⟨rfl, rfl⟩ := Prod.mk.inj (Option.some.inj hs)
      exact (h.accounted p.1 p.2 (.inr hi)).call ht hf (fun x hx => absurd hx (hd x))

theorem Sound.refresh (h : Sound es (exec step {} es)) (number : Nat) {event : RefreshEvent}
    (he : event.op.Plain) :
    Sound (es ++ [.refresh number event]) ((exec step {} es).refresh number event) := by
  have hd (x : RefreshStream) : ¬ Delivers x (exec step {} es) (.refresh number event) :=
    fun hx => hx.2
  refine ⟨h.inStep.refresh number he, ?_⟩
  intro n s' hs
  obtain ⟨s, hw, rfl⟩ := holds_refresh hs
  split_ifs with hn
  · subst hn
    exact (h.accounted n s hw).handle (fun v hv => ⟨s, event, hw, rfl, hv⟩)
      (fun v x hv hc hl => ⟨s, event, hw, rfl, hv, hc, hl⟩) (fun x hx => absurd hx (hd x))
  · exact (h.accounted n s hw).keep hd

theorem Sound.setStreamLive {y : RefreshStream} {live needsFullRefresh : Bool} {env : CallEnv}
    (h : Sound es (exec step {} es)) (hl : (exec step {} es).locked = false)
    (hd : ∀ x, Delivers x (exec step {} es) e → x = y ∧ needsFullRefresh = true) :
    Sound (es ++ [e]) ((exec step {} es).setStreamLive y live needsFullRefresh env) := by
  refine h.call (.setStreamLive y live needsFullRefresh) env
    (h.inStep.setStreamLive hl y live needsFullRefresh env) rfl (unlocked hl).2 (by simp) (by simp)
    ?_
  intro x s hs hx
  exact ⟨hs, (hd x hx).1, .inl (hd x hx).2⟩

theorem Sound.act (h : Sound es (exec step {} es)) (he : Admissible (exec step {} es) e)
    (hl : needsLock e = true → (exec step {} es).locked = false) :
    Sound (es ++ [e]) ((exec step {} es).act e) := by
  have hw := h.inStep.act he hl
  cases e with
  | proceed env => exact h.proceed env
  | refresh number event => exact h.refresh number he
  | message y type env =>
    change Sound _ ((exec step {} es).handleSubscriptionMessage y type env)
    change ((exec step {} es).handleSubscriptionMessage y type env).InStep at hw
    simp only [handleSubscriptionMessage] at hw ⊢
    split
    · refine h.call (.invalidateStream y (reasonForStream y)) env hw rfl
        (unlocked (hl rfl)).2 (by simp) (by simp) ?_
      intro x s hs hx
      exact ⟨hs, hx.2.1⟩
    · rename_i hne
      exact h.keep h.inStep (fun n s hs => hs) (fun x hx => hne hx.2.2)
  | lifecycle y kind needsFullRefresh env =>
    cases kind with
    | progressGap => exact h.setStreamLive (hl rfl) (fun x hx => ⟨hx.2.1, rfl⟩)
    | established => exact h.setStreamLive (hl rfl) (fun x hx => absurd hx.2.2 (by simp))
    | retrying => exact h.setStreamLive (hl rfl) (fun x hx => absurd hx.2.2 (by simp))
    | terminal => exact h.setStreamLive (hl rfl) (fun x hx => absurd hx.2.2 (by simp))
    | other kind => exact h.keep h.inStep (fun n s hs => hs) (fun x hx => absurd hx.2.2 (by simp))
  | notify reason env =>
    exact h.call (.notify reason) env hw rfl (unlocked (hl rfl)).2 (by simp)
      (by simp) (fun x s _ hx => hx.2.elim)
  | initializeStreamCoverage topologyCovered =>
    exact h.keep hw (fun n s hs => hs) (fun x hx => hx.2)
  | clearStreamCoverage => exact h.keep hw (fun n s hs => hs) (fun x hx => hx.2)
  | setRefreshCoordinator coordinator =>
    cases coordinator with
    | none =>
      refine h.keep hw ?_ (fun x hx => hx.2)
      intro n s hs
      rcases hs with hs | hs
      · cases hs
      · exact .inr hs
    | some s =>
      have hu := RefreshSystem.FreshSystem.untouched he
      refine ⟨hw, ?_⟩
      intro n s' hs
      rcases hs with hs | hs
      · exact (h.accounted n s' (.inl hs)).keep (fun x hx => hx.2)
      · obtain ⟨-, rfl⟩ := Prod.mk.inj (Option.some.inj hs)
        exact RefreshSystem.RepairFacts.untouched hu.inv hu.streams

theorem Sound.step (h : Sound es (exec SubscriptionWatcher.step {} es))
    (he : Admissible (exec SubscriptionWatcher.step {} es) e) :
    Sound (es ++ [e]) ((exec SubscriptionWatcher.step {} es).step e) := by
  cases hl : (exec SubscriptionWatcher.step {} es).locked with
  | false =>
    rw [step_of_unlocked hl]
    exact h.act he (fun _ => hl)
  | true =>
    cases hn : needsLock e with
    | false =>
      rw [step_of_free hn]
      exact h.act he (fun hn' => by simp [hn] at hn')
    | true =>
      rw [step_of_locked hl hn]
      refine h.keep h.inStep (fun n s hs => hs) (fun x hx => ?_)
      rw [hx.1] at hl
      cases hl

/-- The coordinator with number `n` succeeded with a batch it took after everything that was
delivered for the stream. -/
def RebuiltSince (es : List WatcherEvent) (n : Nat) (x : RefreshStream) : Prop :=
  ∃ i j v, i < j ∧ EventAt SubscriptionWatcher.step {} es i (TakesIn n v) ∧
    EventAt SubscriptionWatcher.step {} es j (SucceedsIn n v x) ∧
    ∀ k, EventAt SubscriptionWatcher.step {} es k (Delivers x) → k < i

/-- The watcher and its coordinator: with the lock free their flags agree for both streams, and a
coordinator that reports healthy streams has rebuilt since the last delivery of each. -/
theorem attached_coordinator_sound (es : List WatcherEvent)
    (he : Along SubscriptionWatcher.step Admissible {} es) {n : Nat} {s : RefreshSystem}
    (hs : (exec SubscriptionWatcher.step {} es).coordinator = some (n, s)) :
    ((exec SubscriptionWatcher.step {} es).locked = false →
      (exec SubscriptionWatcher.step {} es).streamsConfigured = true →
      ∀ x ∈ [refreshStreamTopology, refreshStreamDelivery],
        (s.coordinator.streams x).covered =
          ((exec SubscriptionWatcher.step {} es).streams x).covered ∧
        (s.coordinator.streams x).live = ((exec SubscriptionWatcher.step {} es).streams x).live) ∧
    (s.coordinator.streamsHealthyLocked = true →
      ∀ x ∈ [refreshStreamTopology, refreshStreamDelivery], RebuiltSince es n x) := by
  have h := along_history (P := Sound) ⟨⟨by simp [Holds], by simp, by simp⟩, by simp [Holds]⟩
    (fun es e he h => h.step he) es he
  constructor
  · intro hl hc
    obtain ⟨hcalls, hin⟩ := unlocked hl
    have ht : (exec SubscriptionWatcher.step {} es).target = some (n, s) := by
      rw [target, hin, Option.none_or, hs]
    obtain ⟨htop, hdel⟩ := h.inStep.flags hc n s ht
    rw [hcalls] at htop hdel
    intro x hx
    have hflags : s.flags x = (exec SubscriptionWatcher.step {} es).streams x := by
      simp only [List.mem_cons, List.not_mem_nil, or_false] at hx
      rcases hx with rfl | rfl
      · exact htop
      · exact hdel
    rw [← hflags]
    exact ⟨rfl, rfl⟩
  · intro hh x hx
    have hx' := List.all_eq_true.mp hh x hx
    simp only [Bool.and_eq_true] at hx'
    exact (h.accounted n s (.inl hs)).repaired x hx'.2

/-- A change arrives and both streams come up before there is a coordinator; the coordinator
handed over then is brought up to date and rebuilds once. -/
def lateCoordinator : List WatcherEvent :=
  [.initializeStreamCoverage true,
    .message refreshStreamTopology (some "event") { now := 1 },
    .lifecycle refreshStreamTopology .established false { now := 2 },
    .lifecycle refreshStreamDelivery .established false { now := 3 },
    .setRefreshCoordinator (some { coordinator := defaultCoordinator }),
    .proceed { now := 4 }, .proceed { now := 4 }, .proceed { now := 4 }, .proceed { now := 4 },
    .proceed { now := 4 },
    .refresh 0 ⟨.start true, { now := 5 }⟩, .refresh 0 ⟨.takeWork, { now := 6 }⟩,
    .refresh 0 ⟨.finishWork none, { now := 7 }⟩]

theorem lateCoordinator_admissible :
    Along SubscriptionWatcher.step Admissible {} lateCoordinator := by
  intro k e he
  have hmem := List.mem_of_getElem? he
  simp only [lateCoordinator, List.mem_cons, List.not_mem_nil, or_false] at hmem
  rcases hmem with rfl | rfl | rfl | rfl | rfl | rfl | rfl | rfl | rfl | rfl | rfl | rfl | rfl
  all_goals first
    | trivial
    | exact ⟨{}, defaultCoordinator, [], newRefreshCoordinator_default, by simp, rfl⟩

theorem attached_coordinator_sound_late : ∃ s,
    (exec SubscriptionWatcher.step {} lateCoordinator).coordinator = some (0, s) ∧
    (s.coordinator.streams refreshStreamTopology).live =
      ((exec SubscriptionWatcher.step {} lateCoordinator).streams refreshStreamTopology).live ∧
    RebuiltSince lateCoordinator 0 refreshStreamTopology := by
  refine ⟨_, rfl, ?_, ?_⟩
  · exact ((attached_coordinator_sound lateCoordinator lateCoordinator_admissible rfl).1 (by decide)
      (by decide) refreshStreamTopology (by simp)).2
  · exact (attached_coordinator_sound lateCoordinator lateCoordinator_admissible rfl).2 (by decide)
      refreshStreamTopology (by simp)

end SubscriptionWatcher

end Meshd.Engine

import Meshd.Engine.Watcher

namespace Meshd.Engine

open Meshd.Framework

/-- The calls a coordinator gets from others than the watcher: no stream call, and no stop. -/
def RefreshOp.Plain : RefreshOp → Prop
  | .start _ | .notify _ | .setPaused _ | .handleTimer | .takeWork | .finishWork _ => True
  | .stop | .exit | .setStreamCovered .. | .setStreamLive .. | .invalidateStream .. => False

/-- No call but these two ends the coordinator. -/
def RefreshOp.Runs : RefreshOp → Prop
  | .stop | .exit => False
  | _ => True

/-- The two calls the watcher's longer sections are made of. -/
def RefreshOp.ReportsStream : RefreshOp → Prop
  | .setStreamCovered .. | .setStreamLive .. => True
  | _ => False

theorem RefreshOp.ReportsStream.runs {op : RefreshOp} (h : op.ReportsStream) : op.Runs := by
  cases op <;> trivial

theorem RefreshOp.Plain.runs {op : RefreshOp} (h : op.Plain) : op.Runs := by
  cases op <;> trivial

/-- The two flags the watcher keeps too. -/
def RefreshStreamState.flags (state : RefreshStreamState) : WatcherStream :=
  { covered := state.covered, live := state.live }

/-- What a coordinator call does to the flags of all streams. -/
def RefreshOp.setFlags (op : RefreshOp) (f : RefreshStream → WatcherStream) :
    RefreshStream → WatcherStream :=
  match op with
  | .setStreamCovered y covered =>
    if (f y).covered = covered then f
    else Function.update f y (if covered then { f y with covered := true } else {})
  | .setStreamLive y live _ => Function.update f y { f y with live := live }
  | _ => f

theorem RefreshOp.Plain.setFlags {op : RefreshOp} (h : op.Plain)
    (f : RefreshStream → WatcherStream) : op.setFlags f = f := by
  cases op <;> first | rfl | exact h.elim

namespace RefreshSystem

variable {s : RefreshSystem} {e : RefreshEvent}

def flags (s : RefreshSystem) (x : RefreshStream) : WatcherStream := (s.coordinator.streams x).flags

theorem step_stopped (h : e.op.Runs) : (s.step e).coordinator.stopped = s.coordinator.stopped := by
  rcases e with ⟨op, env⟩
  cases op with
  | start hasContext =>
    unfold RefreshSystem.step RefreshCoordinator.start
    dsimp only
    split_ifs <;> rfl
  | stop => exact h.elim
  | exit => exact h.elim
  | takeWork =>
    obtain hsame | htaken := s.step_takeWork env
    · rw [hsame]
    · rw [htaken]
  | finishWork err =>
    unfold RefreshSystem.step
    dsimp only
    cases s.work with
    | none => rfl
    | some w => exact (RefreshCoordinator.setup_eq (s.coordinator.finishWork_setup w err env)).2.2.2
  | _ =>
    refine (RefreshCoordinator.setup_eq (RefreshCoordinator.unwritten_setup.step s ?_)).2.2.2
    trivial

/-- Only a successful finish touches a stream among the plain calls. -/
theorem step_streams_of_plain (h : e.op.Plain) :
    (s.step e).coordinator.streams = s.coordinator.streams ∨
    ∃ n, (s.step e).coordinator.streams =
      fun x => RefreshCoordinator.repairStream n (s.coordinator.streams x) := by
  rcases e with ⟨op, env⟩
  cases op with
  | start hasContext => exact .inl (s.step_start_streams hasContext env)
  | notify reason => exact .inl (s.coordinator.notify_streams env reason)
  | setPaused paused => exact .inl (s.coordinator.setPaused_streams env paused)
  | handleTimer => exact .inl (s.coordinator.handleTimer_streams env)
  | takeWork =>
    refine .inl ?_
    obtain hsame | htaken := s.step_takeWork env
    · rw [hsame]
    · rw [htaken]
  | finishWork err =>
    unfold RefreshSystem.step
    dsimp only
    cases s.work with
    | none => exact .inl rfl
    | some w =>
      cases err with
      | some err => exact .inl (s.coordinator.finishWork_err_streams env w err)
      | none => exact .inr ⟨w.batch.sequence, rfl⟩
  | _ => exact h.elim

theorem flags_repairStream (n : Nat) (state : RefreshStreamState) :
    (RefreshCoordinator.repairStream n state).flags = state.flags := by
  rw [repairStream_eq]
  rfl

theorem flags_step_of_plain (h : e.op.Plain) : (s.step e).flags = s.flags := by
  funext x
  simp only [flags]
  rcases step_streams_of_plain h with he | ⟨n, he⟩
  · rw [he]
  · rw [he, flags_repairStream]

/-- Every call but a stop moves the flags as `setFlags` says. -/
theorem flags_step (hs : s.coordinator.stopped = false) (h : e.op.Runs) :
    (s.step e).flags = e.op.setFlags s.flags := by
  by_cases hp : e.op.Plain
  · rw [flags_step_of_plain hp, hp.setFlags]
  rcases e with ⟨op, env⟩
  funext x
  cases op with
  | setStreamCovered y covered =>
    change ((s.coordinator.setStreamCovered y covered env).streams x).flags = _
    by_cases hx : x = y
    · subst hx
      rw [s.coordinator.setStreamCovered_self x covered env hs]
      dsimp only [RefreshOp.setFlags]
      by_cases hc : (s.coordinator.streams x).covered = covered
      · rw [if_pos hc, if_pos (show (s.flags x).covered = covered from hc)]
        rfl
      · rw [if_neg hc, if_neg (show ¬ (s.flags x).covered = covered from hc),
          Function.update_self]
        cases covered <;> rfl
    · rw [s.coordinator.setStreamCovered_ne x y covered env hx]
      dsimp only [RefreshOp.setFlags]
      split_ifs
      · rfl
      all_goals rw [Function.update_of_ne hx]
      all_goals rfl
  | setStreamLive y live needsFullRefresh =>
    change ((s.coordinator.setStreamLive y live needsFullRefresh env).streams x).flags = _
    dsimp only [RefreshOp.setFlags]
    by_cases hx : x = y
    · subst hx
      rw [s.coordinator.setStreamLive_self x live needsFullRefresh env hs, Function.update_self]
      rfl
    · rw [s.coordinator.setStreamLive_ne x y live needsFullRefresh env hx,
        Function.update_of_ne hx]
      rfl
  | invalidateStream y reason =>
    change ((s.coordinator.invalidateStream y reason env).streams x).flags = _
    by_cases hx : x = y
    · subst hx
      rw [s.coordinator.invalidateStream_self x reason env hs]
      rfl
    · rw [s.coordinator.invalidateStream_ne x y reason env hx]
      rfl
  | stop => exact h.elim
  | exit => exact h.elim
  | _ => exact absurd trivial hp

/-- A coordinator that nobody has told about a stream yet: it may be running already. -/
def FreshSystem (s : RefreshSystem) : Prop :=
  ∃ cfg c es, newRefreshCoordinator cfg = .ok c ∧ (∀ e ∈ es, e.op.Plain) ∧
    s = exec step { coordinator := c } es

/-- What the watcher relies on in a fresh coordinator. -/
structure Untouched (s : RefreshSystem) : Prop where
  inv : s.Inv
  stopped : s.coordinator.stopped = false
  streams : ∀ x, s.coordinator.streams x = {}

theorem Untouched.step (h : s.Untouched) (he : e.op.Plain) : (s.step e).Untouched := by
  refine ⟨h.inv.step e, (step_stopped he.runs).trans h.stopped, fun x => ?_⟩
  rcases step_streams_of_plain he with hst | ⟨n, hst⟩
  · rw [hst]
    exact h.streams x
  · rw [hst]
    dsimp only
    rw [h.streams x]
    rfl

theorem FreshSystem.untouched (h : FreshSystem s) : s.Untouched := by
  obtain ⟨cfg, c, es, hc, hes, rfl⟩ := h
  have hf := newRefreshCoordinator_fresh hc
  refine along_history (C := fun _ e => e.op.Plain) (P := fun _ (s : RefreshSystem) => s.Untouched)
    ⟨.init hf, hf.stopped, hf.streams⟩ (fun es e he ih => ih.step he) es ?_
  intro k e he
  exact hes e (List.mem_of_getElem? he)

end RefreshSystem

theorem RefreshOp.setFlags_setStreamCovered (y : RefreshStream) (covered : Bool)
    (f : RefreshStream → WatcherStream) (x : RefreshStream) :
    (RefreshOp.setStreamCovered y covered).setFlags f x =
      if x = y then
        (if (f y).covered = covered then f y
          else if covered then { f y with covered := true } else {})
      else f x := by
  unfold RefreshOp.setFlags
  dsimp only
  by_cases hx : x = y
  · subst hx
    by_cases hc : (f x).covered = covered
    · simp [hc]
    · simp [hc]
  · by_cases hc : (f y).covered = covered
    · simp [hc, hx]
    · simp [hc, hx]

theorem RefreshOp.setFlags_setStreamLive (y : RefreshStream) (live needsFullRefresh : Bool)
    (f : RefreshStream → WatcherStream) (x : RefreshStream) :
    (RefreshOp.setStreamLive y live needsFullRefresh).setFlags f x =
      if x = y then { f y with live := live } else f x := by
  unfold RefreshOp.setFlags
  dsimp only
  by_cases hx : x = y
  · simp [hx]
  · simp [hx]

namespace SubscriptionWatcher

/-- The flags a coordinator has once the calls are made. -/
def afterCalls (calls : List RefreshOp) (f : RefreshStream → WatcherStream) :
    RefreshStream → WatcherStream := calls.foldl (fun f op => op.setFlags f) f

theorem topology_ne_delivery : refreshStreamTopology ≠ refreshStreamDelivery := by decide

/-- Whatever the flags were, the coverage calls leave both streams down and covered as told. -/
theorem afterCalls_coverageCalls (topologyCovered deliveryCovered : Bool)
    (f : RefreshStream → WatcherStream) :
    afterCalls (coverageCalls topologyCovered deliveryCovered) f refreshStreamTopology =
      { covered := topologyCovered } ∧
    afterCalls (coverageCalls topologyCovered deliveryCovered) f refreshStreamDelivery =
      { covered := deliveryCovered } := by
  have hne := topology_ne_delivery
  simp only [afterCalls, coverageCalls, List.foldl_cons, List.foldl_nil,
    RefreshOp.setFlags_setStreamCovered, RefreshOp.setFlags_setStreamLive, hne, hne.symm, if_true,
    if_false]
  constructor
  · cases (f refreshStreamTopology).covered <;> cases topologyCovered <;> rfl
  · cases (f refreshStreamDelivery).covered <;> cases deliveryCovered <;> rfl

/-- The replay brings a fresh coordinator to the watcher's flags. -/
theorem afterCalls_replayCalls (w : SubscriptionWatcher) :
    afterCalls w.replayCalls (fun _ => {}) refreshStreamTopology =
      w.streams refreshStreamTopology ∧
    afterCalls w.replayCalls (fun _ => {}) refreshStreamDelivery =
      w.streams refreshStreamDelivery := by
  have hne := topology_ne_delivery
  simp only [afterCalls, replayCalls, List.foldl_cons, List.foldl_nil,
    RefreshOp.setFlags_setStreamCovered, RefreshOp.setFlags_setStreamLive, hne, hne.symm, if_true,
    if_false]
  constructor
  · rcases w.streams refreshStreamTopology with ⟨covered, live⟩
    cases covered <;> rfl
  · rcases w.streams refreshStreamDelivery with ⟨covered, live⟩
    cases covered <;> rfl

/-- What the environment may do: hand over fresh coordinators only, and leave the stream calls to
the watcher. -/
def Admissible (_ : SubscriptionWatcher) (e : WatcherEvent) : Prop :=
  match e with
  | .setRefreshCoordinator (some s) => s.FreshSystem
  | .refresh _ event => event.op.Plain
  | _ => True

/-- The coordinator the holder of the lock calls. -/
def target (w : SubscriptionWatcher) : Option (Nat × RefreshSystem) := w.incoming.or w.coordinator

/-- The watcher's streams are what its coordinator gets to once the lock is free. -/
structure InStep (w : SubscriptionWatcher) : Prop where
  running : ∀ n s, w.Holds n s → s.coordinator.stopped = false
  calls : ∀ op ∈ w.calls, op.ReportsStream
  flags : w.streamsConfigured = true → ∀ n s, w.target = some (n, s) →
    afterCalls w.calls s.flags refreshStreamTopology = w.streams refreshStreamTopology ∧
    afterCalls w.calls s.flags refreshStreamDelivery = w.streams refreshStreamDelivery

variable {w : SubscriptionWatcher} {e : RefreshEvent}

theorem unlocked (h : w.locked = false) : w.calls = [] ∧ w.incoming = none := by
  simpa [locked] using h

theorem coverageCalls_report (topologyCovered deliveryCovered : Bool) :
    ∀ op ∈ coverageCalls topologyCovered deliveryCovered, op.ReportsStream := by
  simp [coverageCalls, RefreshOp.ReportsStream]

theorem replayCalls_report : ∀ op ∈ w.replayCalls, op.ReportsStream := by
  simp [replayCalls, RefreshOp.ReportsStream]

/-- What one coordinator becomes when the one with the given number makes a step. -/
theorem eq_of_map_run {p : Option (Nat × RefreshSystem)} {number n : Nat} {s' : RefreshSystem}
    (h : p.map (fun p => if p.1 = number then (p.1, p.2.step e) else p) = some (n, s')) :
    ∃ s, p = some (n, s) ∧ s' = if n = number then s.step e else s := by
  obtain ⟨⟨m, s⟩, rfl, hp⟩ := Option.map_eq_some_iff.mp h
  dsimp only at hp
  split_ifs at hp with hm
  · obtain ⟨rfl, rfl⟩ := Prod.mk.inj hp
    exact ⟨s, rfl, by rw [if_pos hm]⟩
  · obtain ⟨rfl, rfl⟩ := Prod.mk.inj hp
    exact ⟨s, rfl, by rw [if_neg hm]⟩

theorem holds_refresh {number n : Nat} {s' : RefreshSystem} (h : (w.refresh number e).Holds n s') :
    ∃ s, w.Holds n s ∧ s' = if n = number then s.step e else s := by
  rcases h with h | h
  · obtain ⟨s, hs, he⟩ := eq_of_map_run h
    exact ⟨s, .inl hs, he⟩
  · obtain ⟨s, hs, he⟩ := eq_of_map_run h
    exact ⟨s, .inr hs, he⟩

theorem InStep.refresh (h : w.InStep) (number : Nat) (he : e.op.Plain) :
    (w.refresh number e).InStep := by
  refine ⟨?_, h.calls, ?_⟩
  · intro n s' hs
    obtain ⟨s, hw, rfl⟩ := holds_refresh hs
    have hr := h.running n s hw
    split_ifs
    · rwa [RefreshSystem.step_stopped he.runs]
    · exact hr
  · intro hc n s' ht
    have ht' : w.target.map (fun p => if p.1 = number then (p.1, p.2.step e) else p) =
        some (n, s') := by
      rw [← ht]
      exact Option.map_or
    obtain ⟨s, hw, rfl⟩ := eq_of_map_run ht'
    have hflags : (if n = number then s.step e else s).flags = s.flags := by
      split_ifs
      · exact RefreshSystem.flags_step_of_plain he
      · rfl
    rw [hflags]
    exact h.flags hc n s hw

theorem call_coordinator {n : Nat} {s' : RefreshSystem}
    (h : (w.call e).coordinator = some (n, s')) :
    ∃ s, w.coordinator = some (n, s) ∧ s' = s.step e := by
  obtain ⟨⟨m, s⟩, hm, hp⟩ := Option.map_eq_some_iff.mp h
  obtain ⟨rfl, rfl⟩ := Prod.mk.inj hp
  exact ⟨s, hm, rfl⟩

theorem InStep.proceed (h : w.InStep) (env : CallEnv) : (w.proceed env).InStep := by
  rcases hc : w.calls with _ | ⟨op, calls⟩
  · rcases hi : w.incoming with _ | p
    · rwa [proceed_unlocked hc hi]
    · rw [proceed_assign hc hi]
      refine ⟨?_, h.calls, ?_⟩
      · intro n s hs
        rcases hs with hs | hs
        · exact h.running n s (.inr (hi.trans hs))
        · cases hs
      · intro hcfg n s ht
        have hw : w.target = some (n, s) := by
          rw [target, hi, Option.some_or]
          exact ht
        exact h.flags hcfg n s hw
  have hop : op.Runs := (h.calls op (by simp [hc])).runs
  have hrest : ∀ op ∈ calls, op.ReportsStream := fun op' ho => h.calls op' (by simp [hc, ho])
  rcases hi : w.incoming with _ | p
  · rw [proceed_attached hc hi]
    refine ⟨?_, hrest, ?_⟩
    · intro n s' hs
      rcases hs with hs | hs
      · obtain ⟨s, hco, rfl⟩ := call_coordinator hs
        rw [RefreshSystem.step_stopped hop]
        exact h.running n s (.inl hco)
      · rw [show w.incoming = some (n, s') from hs] at hi
        cases hi
    · intro hcfg n s' ht
      have ht' : (w.call ⟨op, env⟩).coordinator = some (n, s') := by
        have hor : w.incoming.or (w.call ⟨op, env⟩).coordinator = some (n, s') := ht
        rwa [hi, Option.none_or] at hor
      obtain ⟨s, hs, rfl⟩ := call_coordinator ht'
      have hw : w.target = some (n, s) := by
        rw [target, hi, Option.none_or, hs]
      have hf := h.flags hcfg n s hw
      rw [hc] at hf
      rw [RefreshSystem.flags_step (h.running n s (.inl hs)) hop]
      exact hf
  · rw [proceed_incoming hc hi]
    refine ⟨?_, hrest, ?_⟩
    · intro n s' hs
      rcases hs with hs | hs
      · exact h.running n s' (.inl hs)
      · obtain ⟨rfl, rfl⟩ := Prod.mk.inj (Option.some.inj hs)
        rw [RefreshSystem.step_stopped hop]
        exact h.running p.1 p.2 (.inr hi)
    · intro hcfg n s' ht
      obtain ⟨rfl, rfl⟩ := Prod.mk.inj (Option.some.inj ht)
      have hw : w.target = some (p.1, p.2) := by
        rw [target, hi, Option.some_or]
      have hf := h.flags hcfg p.1 p.2 hw
      rw [hc] at hf
      rw [RefreshSystem.flags_step (h.running p.1 p.2 (.inr hi)) hop]
      exact hf

/-- A call on the attached coordinator, with the lock free, that moves the flags of the watcher
and of the coordinator alike. -/
theorem InStep.call (h : w.InStep) (hf : w.locked = false) (he : e.op.Runs)
    {streams : RefreshStream → WatcherStream}
    (hs : ∀ f : RefreshStream → WatcherStream, ∀ x, f x = w.streams x →
      e.op.setFlags f x = streams x) : ({ w with streams }.call e).InStep := by
  obtain ⟨hc, hi⟩ := unlocked hf
  refine ⟨?_, h.calls, ?_⟩
  · intro n s' hw
    rcases hw with hw | hw
    · obtain ⟨s, hs, rfl⟩ := call_coordinator hw
      rw [RefreshSystem.step_stopped he]
      exact h.running n s (.inl hs)
    · exact h.running n s' (.inr hw)
  · intro hcfg n s' ht
    have ht' : ({ w with streams }.call e).coordinator = some (n, s') := by
      have hor : w.incoming.or ({ w with streams }.call e).coordinator = some (n, s') := ht
      rwa [hi, Option.none_or] at hor
    obtain ⟨s, hco, rfl⟩ := call_coordinator ht'
    have hw : w.target = some (n, s) := by
      rw [target, hi, Option.none_or]
      exact hco
    have hfl := h.flags hcfg n s hw
    rw [hc] at hfl
    change afterCalls w.calls (s.step e).flags refreshStreamTopology = streams _ ∧
      afterCalls w.calls (s.step e).flags refreshStreamDelivery = streams _
    rw [hc, RefreshSystem.flags_step (h.running n s (.inl hco)) he]
    exact ⟨hs _ _ hfl.1, hs _ _ hfl.2⟩

theorem InStep.setStreamLive (h : w.InStep) (hf : w.locked = false) (y : RefreshStream)
    (live needsFullRefresh : Bool) (env : CallEnv) :
    (w.setStreamLive y live needsFullRefresh env).InStep := by
  refine h.call hf (e := ⟨.setStreamLive y live needsFullRefresh, env⟩) trivial ?_
  intro f x hx
  rw [RefreshOp.setFlags_setStreamLive, Function.update_apply]
  split_ifs with hxy
  · rw [← hxy, hx]
  · exact hx

/-- A section that rewrites both streams and brings the attached coordinator there. -/
theorem InStep.coverage (h : w.InStep) (hf : w.locked = false)
    (configured topologyCovered deliveryCovered : Bool) :
    ({ w with
        streamsConfigured := configured
        streams := w.setStreams { covered := topologyCovered } { covered := deliveryCovered }
        calls := if w.coordinator.isNone then []
          else coverageCalls topologyCovered deliveryCovered } :
      SubscriptionWatcher).InStep := by
  have hi := (unlocked hf).2
  refine ⟨h.running, ?_, ?_⟩
  · dsimp only
    split_ifs
    · simp
    · exact coverageCalls_report topologyCovered deliveryCovered
  · intro _ n s ht
    have hco : w.coordinator = some (n, s) := by
      have hor : w.incoming.or w.coordinator = some (n, s) := ht
      rwa [hi, Option.none_or] at hor
    obtain ⟨htop, hdel⟩ := afterCalls_coverageCalls topologyCovered deliveryCovered s.flags
    have hne := topology_ne_delivery
    simp only [hco, Option.isNone_some, Bool.false_eq_true, if_false, htop, hdel, setStreams,
      Function.update_self, Function.update_of_ne hne, and_self]

theorem InStep.attach (h : w.InStep) {s : RefreshSystem} (hs : s.Untouched) :
    (w.setRefreshCoordinator (some s)).InStep := by
  refine ⟨?_, ?_, ?_⟩
  · intro n s' hw
    rcases hw with hw | hw
    · exact h.running n s' (.inl hw)
    · obtain ⟨-, rfl⟩ := Prod.mk.inj (Option.some.inj hw)
      exact hs.stopped
  · change ∀ op ∈ (if w.streamsConfigured then w.replayCalls else []), op.ReportsStream
    split_ifs
    · exact replayCalls_report
    · simp
  · intro hcfg n s' ht
    obtain ⟨-, rfl⟩ := Prod.mk.inj (Option.some.inj ht)
    have hflags : s.flags = fun _ => {} := by
      funext x
      rw [RefreshSystem.flags, hs.streams x]
      rfl
    change afterCalls (if w.streamsConfigured then w.replayCalls else []) s.flags _ = _ ∧
      afterCalls (if w.streamsConfigured then w.replayCalls else []) s.flags _ = _
    rw [if_pos (show w.streamsConfigured = true from hcfg), hflags]
    exact w.afterCalls_replayCalls

theorem InStep.detach (h : w.InStep) (hf : w.locked = false) :
    (w.setRefreshCoordinator none).InStep := by
  have hi := (unlocked hf).2
  refine ⟨?_, h.calls, ?_⟩
  · intro n s hw
    rcases hw with hw | hw
    · cases hw
    · exact h.running n s (.inr hw)
  · intro _ n s ht
    have hor : w.incoming.or none = some (n, s) := ht
    rw [hi] at hor
    cases hor

theorem InStep.act (h : w.InStep) {e : WatcherEvent} (he : w.Admissible e)
    (hl : needsLock e = true → w.locked = false) : (w.act e).InStep := by
  cases e with
  | proceed env => exact h.proceed env
  | refresh number event => exact h.refresh number he
  | message stream type env =>
    change (w.handleSubscriptionMessage stream type env).InStep
    simp only [handleSubscriptionMessage]
    split
    · exact h.call (hl rfl) (e := ⟨.invalidateStream stream _, env⟩) trivial (fun f x hx => hx)
    · exact h
  | lifecycle stream kind needsFullRefresh env =>
    cases kind with
    | established => exact h.setStreamLive (hl rfl) stream true needsFullRefresh env
    | progressGap => exact h.setStreamLive (hl rfl) stream false true env
    | retrying => exact h.setStreamLive (hl rfl) stream false false env
    | terminal => exact h.setStreamLive (hl rfl) stream false false env
    | other kind => exact h
  | notify reason env =>
    exact h.call (hl rfl) (e := ⟨.notify reason, env⟩) trivial (fun f x hx => hx)
  | initializeStreamCoverage topologyCovered => exact h.coverage (hl rfl) true topologyCovered true
  | clearStreamCoverage => exact h.coverage (hl rfl) false false false
  | setRefreshCoordinator coordinator =>
    cases coordinator with
    | none => exact h.detach (hl rfl)
    | some s => exact h.attach (RefreshSystem.FreshSystem.untouched he)

end SubscriptionWatcher

end Meshd.Engine

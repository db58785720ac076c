import Meshd.Engine.Refresh.RetryFloor

namespace Meshd.Engine

open Meshd.Framework

namespace RefreshCoordinator

variable (c : RefreshCoordinator)

/-- The two times of the debounce window. -/
def window : Time × Time := (c.debounceStartedAt, c.debounceNotBefore)

/-- What the configuration says about debouncing. -/
def debounceConfig : Duration × Duration := (c.debounce, c.maxDebounce)

theorem unwritten_debounceConfig : Unwritten debounceConfig :=
  ⟨fun _ _ _ => rfl, fun _ _ => rfl, fun _ _ => rfl, fun _ _ _ => rfl, fun _ _ => rfl⟩

/-- A debouncing call opens the window, or keeps its start, and sets a deadline that passes neither
the cap nor, once the cap is over, the call itself. -/
theorem deferPendingLocked_window (now : Time) (hd : 0 < c.debounce) (hm : 0 < c.maxDebounce)
    (hp : GoMap.isEmpty c.pending = false) :
    (c.deferPendingLocked now).debounceStartedAt =
      (if c.debounceStartedAt = 0 then now else c.debounceStartedAt) ∧
    (c.deferPendingLocked now).debounceNotBefore ≤
      max now ((c.deferPendingLocked now).debounceStartedAt + c.maxDebounce) := by
  have hopen : ¬ (c.debounce ≤ 0 ∨ GoMap.isEmpty c.pending = true) := by
    rw [hp]
    simpa using hd
  unfold deferPendingLocked
  dsimp only
  rw [if_neg hopen]
  refine ⟨rfl, ?_⟩
  dsimp only
  generalize (if c.debounceStartedAt = 0 then now else c.debounceStartedAt) = startedAt
  split_ifs with hcap hlate hlate <;> lia

/-- A call without debouncing leaves the window as it was, and queued work queued; or it leaves no
work behind and closes the window. -/
def KeepsWindow (c c' : RefreshCoordinator) : Prop :=
  c'.window = c.window ∧ (GoMap.isEmpty c.pending = false → GoMap.isEmpty c'.pending = false) ∨
  GoMap.isEmpty c'.pending = true ∧ c'.debounceStartedAt = 0

variable {c} {c' : RefreshCoordinator}

theorem KeepsWindow.of_pending (hw : c'.window = c.window) (hp : c'.pending = c.pending) :
    KeepsWindow c c' := .inl ⟨hw, fun h => hp ▸ h⟩

theorem KeepsWindow.of_not_empty (hw : c'.window = c.window)
    (hp : GoMap.isEmpty c'.pending = false) : KeepsWindow c c' := .inl ⟨hw, fun _ => hp⟩

variable (c)

theorem keepsWindow_dropPending (y : RefreshStream) : KeepsWindow c (c.dropPending y) := by
  unfold dropPending
  dsimp only
  split_ifs with he
  · exact .inr ⟨he, rfl⟩
  · exact .of_not_empty rfl (by simpa using he)

theorem keepsWindow_setStreamCovered (y : RefreshStream) (covered : Bool) (env : CallEnv) :
    KeepsWindow c (c.setStreamCovered y covered env) := by
  unfold setStreamCovered
  dsimp only
  split_ifs
  · exact .of_pending rfl rfl
  · exact .of_pending rfl rfl
  · exact (c.modifyStream y fun state => { state with
      covered := false, live := false, repaired := false,
      repairSequence := 0 }).keepsWindow_dropPending y
  · exact .of_not_empty rfl (isEmpty_enqueuePending _ _ _)
  · exact .of_pending rfl rfl

theorem keepsWindow_setStreamLive (y : RefreshStream) (live needsFullRefresh : Bool)
    (env : CallEnv) : KeepsWindow c (c.setStreamLive y live needsFullRefresh env) := by
  have hq (c : RefreshCoordinator) (wasLive : Bool) : (c.queueRepair y wasLive).window = c.window ∧
      GoMap.isEmpty (c.queueRepair y wasLive).pending = false := by
    unfold queueRepair
    dsimp only
    split_ifs <;> exact ⟨rfl, isEmpty_enqueuePending _ _ _⟩
  cases live with
  | false =>
    -- a stream that is not live queues nothing, so only the drop matters
    have hr : KeepsWindow c (c.reportLive y false needsFullRefresh) := by
      unfold reportLive
      dsimp only
      split_ifs
      · exact ((c.modifyStream y fun state => { state with live := false }).markStale
          y).keepsWindow_dropPending y
      · contradiction
      · exact .of_pending rfl rfl
    unfold setStreamLive
    dsimp only
    simp only [Bool.false_and, Bool.false_eq_true, if_false]
    split_ifs
    · exact .of_pending rfl rfl
    · exact hr
    · exact hr
  | true =>
    have hr : (c.reportLive y true needsFullRefresh).window = c.window ∧
        (c.reportLive y true needsFullRefresh).pending = c.pending := by
      unfold reportLive
      dsimp only
      split_ifs <;> first | contradiction | exact ⟨rfl, rfl⟩
    unfold setStreamLive
    dsimp only
    split_ifs
    · exact .of_pending rfl rfl
    · exact .of_not_empty ((hq _ _).1.trans hr.1) (hq _ _).2
    · exact .of_pending hr.1 hr.2
    · exact .of_not_empty ((hq _ _).1.trans hr.1) (hq _ _).2
    · exact .of_pending hr.1 hr.2

theorem keepsWindow_finishWork (w : RefreshWork) (err : Option RefreshError) (env : CallEnv) :
    KeepsWindow c (c.finishWork w err env) := by
  cases err with
  | none => exact .of_pending rfl rfl
  | some err =>
    refine .inl ⟨?_, fun hp => ?_⟩
    · simp only [finishWork]
      simp only [requeue_eq]
      rfl
    · obtain ⟨k, ho⟩ := Owed.of_not_empty hp
      rw [finishWork_err_pending]
      exact (ho.requeue _).not_empty

end RefreshCoordinator

theorem newRefreshCoordinator_debounce {cfg : RefreshCoordinatorConfig} {c : RefreshCoordinator}
    (h : newRefreshCoordinator cfg = .ok c) (hd : 0 < cfg.debounce) :
    0 < c.debounce ∧ 0 < c.maxDebounce ∧ c.debounceStartedAt = 0 := by
  obtain ⟨_, _, _, _, _, rfl, -, -, hmax⟩ := newRefreshCoordinator_ok h
  exact ⟨hd, lt_of_lt_of_le hd (hmax hd), rfl⟩

namespace RefreshSystem

variable {s : RefreshSystem} {e : RefreshEvent}

/-- The event is a call that debounces: a notification, the end of a pause, or the invalidation of a
stream that is covered and live. -/
def Debounces (s : RefreshSystem) (e : RefreshEvent) : Prop :=
  s.coordinator.stopped = false ∧
  match e.op with
  | .notify _ => True
  | .setPaused paused => s.coordinator.paused = true ∧ paused = false
  | .invalidateStream y _ =>
    (s.coordinator.streams y).covered = true ∧ (s.coordinator.streams y).live = true
  | _ => False

theorem debounceConfig_step (s : RefreshSystem) (e : RefreshEvent) :
    (s.step e).coordinator.debounceConfig = s.coordinator.debounceConfig := by
  rcases e with ⟨op, env⟩
  cases op with
  | start hasContext =>
    unfold RefreshSystem.step RefreshCoordinator.start
    dsimp only
    split_ifs <;> rfl
  | stop => rfl
  | takeWork =>
    obtain hsame | htaken := s.step_takeWork env
    · rw [hsame]
    · rw [htaken]
      rfl
  | finishWork err =>
    unfold RefreshSystem.step
    dsimp only
    cases s.work with
    | none => rfl
    | some w =>
      cases err with
      | none => rfl
      | some err =>
        simp only [RefreshCoordinator.finishWork]
        simp only [RefreshCoordinator.requeue_eq]
        rfl
  | exit =>
    unfold RefreshSystem.step
    dsimp only
    split_ifs <;> rfl
  | _ =>
    refine RefreshCoordinator.unwritten_debounceConfig.step s ?_
    trivial

theorem keepsWindow_of_not_debounces (h : ¬ s.Debounces e) :
    s.coordinator.KeepsWindow (s.step e).coordinator := by
  rcases e with ⟨op, env⟩
  cases op with
  | start hasContext =>
    unfold RefreshSystem.step RefreshCoordinator.start
    dsimp only
    split_ifs
    · exact .of_pending rfl rfl
    · exact .of_pending rfl rfl
    · exact .of_pending rfl rfl
    · exact .of_not_empty rfl (isEmpty_enqueuePending _ _ _)
  | stop => exact .of_pending rfl rfl
  | notify reason =>
    have hs : s.coordinator.stopped = true := by
      by_contra hs
      exact h ⟨by simpa using hs, trivial⟩
    have hsame : s.coordinator.notify reason env = s.coordinator := by
      simp [RefreshCoordinator.notify, hs]
    exact .of_pending (congrArg RefreshCoordinator.window hsame)
      (congrArg RefreshCoordinator.pending hsame)
  | setPaused paused =>
    change s.coordinator.KeepsWindow (s.coordinator.setPaused paused env)
    unfold RefreshCoordinator.setPaused
    dsimp only
    split_ifs with hs hp
    · exact .of_pending rfl rfl
    · simp only [Bool.and_eq_true, Bool.not_eq_true'] at hp
      exact absurd ⟨by simpa using hs, hp⟩ h
    · exact .of_pending rfl rfl
  | setStreamCovered y covered => exact s.coordinator.keepsWindow_setStreamCovered y covered env
  | setStreamLive y live needsFullRefresh =>
    exact s.coordinator.keepsWindow_setStreamLive y live needsFullRefresh env
  | invalidateStream y reason =>
    change s.coordinator.KeepsWindow (s.coordinator.invalidateStream y reason env)
    unfold RefreshCoordinator.invalidateStream
    dsimp only
    by_cases hs : s.coordinator.stopped = true
    · rw [if_pos hs]
      exact .of_pending rfl rfl
    rw [if_neg hs]
    by_cases hcl : (((s.coordinator.markStale y).streams y).covered &&
        ((s.coordinator.markStale y).streams y).live) = true
    · simp only [RefreshCoordinator.markStale_self, Bool.and_eq_true] at hcl
      exact absurd ⟨by simpa using hs, hcl⟩ h
    · rw [if_neg hcl]
      exact .of_pending rfl rfl
  | handleTimer =>
    change s.coordinator.KeepsWindow (s.coordinator.handleTimer env)
    simp only [RefreshCoordinator.handleTimer]
    split_ifs
    · exact .of_not_empty rfl (isEmpty_enqueuePending _ _ _)
    · exact .of_pending rfl rfl
  | takeWork =>
    obtain hsame | htaken := s.step_takeWork env
    · rw [hsame]
      exact .of_pending rfl rfl
    · rw [htaken]
      exact .inr ⟨rfl, rfl⟩
  | finishWork err =>
    unfold RefreshSystem.step
    dsimp only
    cases s.work with
    | none => exact .of_pending rfl rfl
    | some w => exact s.coordinator.keepsWindow_finishWork w err env
  | exit =>
    unfold RefreshSystem.step
    dsimp only
    split_ifs
    · exact .of_pending rfl rfl
    · exact .of_pending rfl rfl

/-- A debouncing call files its work and then defers what is queued. -/
theorem Debounces.filed (h : s.Debounces e) : ∃ filed : RefreshCoordinator,
    filed.window = s.coordinator.window ∧ filed.debounceConfig = s.coordinator.debounceConfig ∧
    GoMap.isEmpty filed.pending = false ∧
    (s.step e).coordinator.pending = filed.pending ∧
    (s.step e).coordinator.window = (filed.deferPendingLocked e.env.now).window := by
  obtain ⟨hs, h⟩ := h
  rcases e with ⟨op, env⟩
  cases op with
  | notify reason =>
    refine ⟨s.coordinator.enqueueLocked (pendingKey reason), rfl, rfl,
      isEmpty_enqueuePending _ _ _, ?_, ?_⟩
    · change (s.coordinator.notify reason env).pending = _
      simp [RefreshCoordinator.notify, hs]
    · change (s.coordinator.notify reason env).window = _
      simp [RefreshCoordinator.notify, hs]
  | setPaused paused =>
    obtain ⟨hp, rfl⟩ := h
    refine ⟨{ s.coordinator with paused := false }.enqueueLocked refreshReasonManual, rfl, rfl,
      isEmpty_enqueuePending _ _ _, ?_, ?_⟩
    · change (s.coordinator.setPaused false env).pending = _
      simp [RefreshCoordinator.setPaused, hs, hp]
    · change (s.coordinator.setPaused false env).window = _
      simp [RefreshCoordinator.setPaused, hs, hp]
  | invalidateStream y reason =>
    refine ⟨(s.coordinator.markStale y).enqueueAtLocked
      (if reason = "" then reasonForStream y else reason)
      ((s.coordinator.markStale y).streams y).repairSequence, rfl, rfl,
      isEmpty_enqueuePending _ _ _, ?_, ?_⟩
    · change (s.coordinator.invalidateStream y reason env).pending = _
      simp [RefreshCoordinator.invalidateStream, hs, h.1, h.2]
    · change (s.coordinator.invalidateStream y reason env).window = _
      simp only [RefreshCoordinator.invalidateStream]
      simp only [hs, Bool.false_eq_true, if_false, RefreshCoordinator.markStale_self, h.1, h.2,
        Bool.and_self, if_true]
      rfl
  | _ => exact h.elim

/-- What a debouncing call does to the window. -/
theorem window_of_debounces (h : s.Debounces e) (hd : 0 < s.coordinator.debounce)
    (hm : 0 < s.coordinator.maxDebounce) :
    (s.step e).coordinator.debounceStartedAt =
      (if s.coordinator.debounceStartedAt = 0 then e.env.now
        else s.coordinator.debounceStartedAt) ∧
    (s.step e).coordinator.debounceNotBefore ≤
      max e.env.now ((s.step e).coordinator.debounceStartedAt + s.coordinator.maxDebounce) := by
  obtain ⟨filed, hwin, hcfg, hp, -, hstep⟩ := h.filed
  simp only [RefreshCoordinator.window, RefreshCoordinator.debounceConfig,
    Prod.mk.injEq] at hwin hcfg hstep
  have hdef := filed.deferPendingLocked_window e.env.now (hcfg.1 ▸ hd) (hcfg.2 ▸ hm) hp
  rw [← hstep.1, ← hstep.2, hwin.1, hcfg.2] at hdef
  exact hdef

section Run
variable {cfg : RefreshCoordinatorConfig} {c : RefreshCoordinator} {es : List RefreshEvent}

theorem debounceConfig_stateAt (c : RefreshCoordinator) (es : List RefreshEvent) (k : Nat) :
    (stateAt step { coordinator := c } es k).coordinator.debounce = c.debounce ∧
    (stateAt step { coordinator := c } es k).coordinator.maxDebounce = c.maxDebounce := by
  have h : (stateAt step { coordinator := c } es k).coordinator.debounceConfig =
      c.debounceConfig :=
    stateAt_invariant (P := fun s : RefreshSystem =>
      s.coordinator.debounceConfig = c.debounceConfig) rfl
      (fun s e h => (s.debounceConfig_step e).trans h) es k
  simpa [RefreshCoordinator.debounceConfig] using h

/-- Without work there is no window. -/
theorem closed_step (h : GoMap.isEmpty s.coordinator.pending = true →
      s.coordinator.debounceStartedAt = 0)
    (hp : GoMap.isEmpty (s.step e).coordinator.pending = true) :
    (s.step e).coordinator.debounceStartedAt = 0 := by
  by_cases hd : s.Debounces e
  · obtain ⟨filed, -, -, hne, heq, -⟩ := hd.filed
    rw [heq, hne] at hp
    cases hp
  · rcases keepsWindow_of_not_debounces hd with ⟨hw, hne⟩ | ⟨-, hz⟩
    · have hempty : GoMap.isEmpty s.coordinator.pending = true := by
        by_contra hfull
        rw [hne (by simpa using hfull)] at hp
        cases hp
      rw [RefreshCoordinator.window, RefreshCoordinator.window, Prod.mk.injEq] at hw
      exact hw.1.trans (h hempty)
    · exact hz

/-- A window that is open was opened by a debouncing call, with work queued ever since. -/
theorem debounces_of_open (hc : newRefreshCoordinator cfg = .ok c) (hd : 0 < cfg.debounce)
    (k : Nat) (hopen : (stateAt step { coordinator := c } es k).coordinator.debounceStartedAt ≠ 0) :
    ∃ l, l < k ∧ EventAt step { coordinator := c } es l (fun s e => s.Debounces e) ∧
      ∀ p, l < p → p ≤ k →
        GoMap.isEmpty (stateAt step { coordinator := c } es p).coordinator.pending = false := by
  have hzero := (newRefreshCoordinator_debounce hc hd).2.2
  have hclosed (p : Nat) :
      GoMap.isEmpty (stateAt step { coordinator := c } es p).coordinator.pending = true →
      (stateAt step { coordinator := c } es p).coordinator.debounceStartedAt = 0 :=
    stateAt_invariant (P := fun s : RefreshSystem => GoMap.isEmpty s.coordinator.pending = true →
      s.coordinator.debounceStartedAt = 0) (fun _ => hzero) (fun s e h => closed_step h) es p
  induction k with
  | zero => exact absurd hzero hopen
  | succ k ih =>
    have hwork : GoMap.isEmpty
        (stateAt step { coordinator := c } es (k + 1)).coordinator.pending = false := by
      by_contra hempty
      exact hopen (hclosed (k + 1) (by simpa using hempty))
    -- what held up to `k` holds up to `k + 1`, since work is queued there too
    have extend (hk : (stateAt step { coordinator := c } es k).coordinator.debounceStartedAt ≠ 0) :
        ∃ l, l < k + 1 ∧ EventAt step { coordinator := c } es l (fun s e => s.Debounces e) ∧
          ∀ p, l < p → p ≤ k + 1 →
            GoMap.isEmpty (stateAt step { coordinator := c } es p).coordinator.pending = false := by
      obtain ⟨l, hlk, hl, hp⟩ := ih hk
      refine ⟨l, by omega, hl, fun p hlp hpk => ?_⟩
      rcases Nat.lt_or_eq_of_le hpk with hlt | rfl
      · exact hp p hlp (by omega)
      · exact hwork
    cases he : es[k]? with
    | none =>
      rw [stateAt_succ_of_none _ _ _ he] at hopen
      exact extend hopen
    | some e =>
      by_cases hdeb : (stateAt step { coordinator := c } es k).Debounces e
      · refine ⟨k, by omega, ⟨e, he, hdeb⟩, fun p hkp hpk => ?_⟩
        obtain rfl : p = k + 1 := by omega
        exact hwork
      · rw [stateAt_succ _ _ _ _ he] at hopen
        rcases keepsWindow_of_not_debounces hdeb with ⟨hw, -⟩ | ⟨-, hz⟩
        · rw [RefreshCoordinator.window, RefreshCoordinator.window, Prod.mk.injEq] at hw
          exact extend (hw.1 ▸ hopen)
        · exact absurd hz hopen

/-- Unpaused, idle and past the retry time: only the queue and the window can hold a batch back. -/
structure Ready (c : RefreshCoordinator) (now : Time) : Prop where
  unpaused : c.paused = false
  idle : c.inFlight = false
  retry : c.retryNotBefore ≤ now

theorem takeWorkLocked_isSome {c : RefreshCoordinator} {now : Time} (h : Ready c now)
    (hp : GoMap.isEmpty c.pending = false) (hd : c.debounceNotBefore ≤ now) :
    (c.takeWorkLocked now).isSome = true := by
  have hr : ¬ c.retryNotBefore > now := not_lt.mpr h.retry
  have hw : ¬ c.debounceNotBefore > now := not_lt.mpr hd
  simp only [RefreshCoordinator.takeWorkLocked]
  simp [h.unpaused, h.idle, hp, hr, hw]

/-- The debounce cap. When the first debouncing call since the queue was last empty came at a time
other than Go's zero time, which the coordinator reads as an unset start, the queue can be taken
from `maxDebounce` after that call on, however many calls extend the quiet window. The readings of
the clock need not even be in order. -/
theorem debounce_capped (hc : newRefreshCoordinator cfg = .ok c) (hd : 0 < cfg.debounce) {i : Nat}
    {e : RefreshEvent} (he : es[i]? = some e)
    (hcall : (stateAt step { coordinator := c } es i).Debounces e)
    (hfirst : ∀ l, l < i → EventAt step { coordinator := c } es l (fun s e => s.Debounces e) →
      ∃ p, l < p ∧ p ≤ i ∧
        GoMap.isEmpty (stateAt step { coordinator := c } es p).coordinator.pending = true)
    (hsince : ∀ p, i < p → p ≤ es.length →
      GoMap.isEmpty (stateAt step { coordinator := c } es p).coordinator.pending = false)
    (hset : e.env.now ≠ 0) {now : Time} (hcap : e.env.now + c.maxDebounce ≤ now)
    (hnow : ∀ f ∈ es, f.env.now ≤ now)
    (hready : Ready (exec step { coordinator := c } es).coordinator now) :
    ((exec step { coordinator := c } es).coordinator.takeWorkLocked now).isSome = true := by
  obtain ⟨hdeb, hmax, -⟩ := newRefreshCoordinator_debounce hc hd
  have hcfg := debounceConfig_stateAt c es
  have hlen : i < es.length := lt_length_of_getElem? he
  have hclosed : (stateAt step { coordinator := c } es i).coordinator.debounceStartedAt = 0 := by
    by_contra hopen
    obtain ⟨l, hli, hl, hwork⟩ := debounces_of_open hc hd i hopen
    obtain ⟨p, hlp, hpi, hempty⟩ := hfirst l hli hl
    rw [hwork p hlp hpi] at hempty
    cases hempty
  have hp := hsince es.length hlen le_rfl
  rw [stateAt_length] at hp
  refine takeWorkLocked_isSome hready hp ?_
  suffices hend : (stateAt step { coordinator := c } es es.length).coordinator.debounceStartedAt =
      e.env.now ∧
      (stateAt step { coordinator := c } es es.length).coordinator.debounceNotBefore ≤ now by
    rw [stateAt_length] at hend
    exact hend.2
  refine stateAt_from (P := fun _ (s : RefreshSystem) =>
    s.coordinator.debounceStartedAt = e.env.now ∧ s.coordinator.debounceNotBefore ≤ now)
    (Nat.succ_le_of_lt hlen) ?_ (fun _ _ h => h) ?_
  · rw [stateAt_succ _ _ _ _ he]
    obtain ⟨hstart, hlate⟩ := window_of_debounces hcall ((hcfg i).1 ▸ hdeb) ((hcfg i).2 ▸ hmax)
    rw [hclosed, if_pos rfl] at hstart
    refine ⟨hstart, hlate.trans ?_⟩
    rw [hstart, (hcfg i).2]
    exact max_le (hnow e (List.mem_of_getElem? he)) hcap
  · rintro k f hik hkl hf ⟨hstart, hlate⟩
    by_cases hdebk : (stateAt step { coordinator := c } es k).Debounces f
    · obtain ⟨hstart', hlate'⟩ :=
        window_of_debounces hdebk ((hcfg k).1 ▸ hdeb) ((hcfg k).2 ▸ hmax)
      rw [hstart, if_neg hset] at hstart'
      refine ⟨hstart', hlate'.trans ?_⟩
      rw [hstart', (hcfg k).2]
      exact max_le (hnow f (List.mem_of_getElem? hf)) hcap
    · rcases keepsWindow_of_not_debounces hdebk with ⟨hw, -⟩ | ⟨hempty, -⟩
      · rw [RefreshCoordinator.window, RefreshCoordinator.window, Prod.mk.injEq] at hw
        exact ⟨hw.1.trans hstart, hw.2.le.trans hlate⟩
      · have hp := hsince (k + 1) (by omega) (by omega)
        rw [stateAt_succ _ _ _ _ hf, hempty] at hp
        cases hp

/-- A quiet window of one second, capped at two. -/
def debounceCfg : RefreshCoordinatorConfig := { debounce := second, maxDebounce := 2 * second }

def debounceCoordinator : RefreshCoordinator :=
  { defaultCoordinator with debounce := second, maxDebounce := 2 * second }

theorem newRefreshCoordinator_debounceCfg :
    newRefreshCoordinator debounceCfg = .ok debounceCoordinator := rfl

/-- Three notifications, nine tenths of a second apart, from a first reading of the clock on. -/
def hotStream (t : Time) : List RefreshEvent :=
  [⟨.notify refreshReasonEndpoint, { now := t }⟩,
    ⟨.notify refreshReasonEndpoint, { now := t + 900000000 }⟩,
    ⟨.notify refreshReasonEndpoint, { now := t + 1800000000 }⟩]

theorem debounce_capped_hotStream :
    ((exec step { coordinator := debounceCoordinator } (hotStream second)).coordinator.takeWorkLocked
      (second + 2 * second)).isSome = true := by
  refine debounce_capped newRefreshCoordinator_debounceCfg (by decide) (i := 0) rfl
    ⟨rfl, trivial⟩ (by simp) ?_ (by decide) le_rfl ?_ ⟨rfl, rfl, by decide⟩
  · intro p hp hlen
    have hp3 : p ≤ 3 := hlen
    obtain rfl | rfl | rfl : p = 1 ∨ p = 2 ∨ p = 3 := by omega
    · decide
    · decide
    · decide
  · intro f hf
    simp only [hotStream, List.mem_cons, List.not_mem_nil, or_false] at hf
    rcases hf with rfl | rfl | rfl <;> decide

/-- At Go's zero time the first start of the window reads as unset, and the second call starts it
again: two seconds after the first call the queue is still held back. -/
theorem debounce_not_capped_zeroTime :
    (hotStream 0).IsChain (fun e f => e.env.now ≤ f.env.now) ∧
    (stateAt step { coordinator := debounceCoordinator } (hotStream 0) 0).Debounces
      ⟨.notify refreshReasonEndpoint, { now := 0 }⟩ ∧
    (∀ p, 0 < p → p ≤ 3 → GoMap.isEmpty (stateAt step { coordinator := debounceCoordinator }
      (hotStream 0) p).coordinator.pending = false) ∧
    (∀ f ∈ hotStream 0, f.env.now ≤ 0 + 2 * second) ∧
    Ready (exec step { coordinator := debounceCoordinator } (hotStream 0)).coordinator
      (0 + 2 * second) ∧
    ((exec step { coordinator := debounceCoordinator } (hotStream 0)).coordinator.takeWorkLocked
      (0 + 2 * second)).isSome = false := by
  refine ⟨by unfold hotStream; decide, ⟨rfl, trivial⟩, ?_, ?_, ⟨rfl, rfl, by decide⟩, by decide⟩
  · intro p hp hlen
    obtain rfl | rfl | rfl : p = 1 ∨ p = 2 ∨ p = 3 := by omega
    · decide
    · decide
    · decide
  · intro f hf
    simp only [hotStream, List.mem_cons, List.not_mem_nil, or_false] at hf
    rcases hf with rfl | rfl | rfl <;> decide

end Run

end RefreshSystem

end Meshd.Engine

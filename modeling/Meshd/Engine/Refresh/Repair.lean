import Meshd.Engine.Refresh.Invariant

namespace Meshd.Engine

open Meshd.Framework

/-- A new coordinator holds no work, knows no stream and has numbered nothing. -/
structure RefreshCoordinator.Fresh (c : RefreshCoordinator) : Prop where
  pending : c.pending = ∅
  streams : ∀ x, c.streams x = {}
  inFlight : c.inFlight = false
  stopped : c.stopped = false
  started : c.started = false

/-- What the checks of the constructor leave of a configuration. -/
theorem newRefreshCoordinator_ok {cfg : RefreshCoordinatorConfig} {c : RefreshCoordinator}
    (h : newRefreshCoordinator cfg = .ok c) :
    ∃ fallbackInterval healthyInterval retryBackoff maxRetryBackoff maxDebounce : Duration,
      c = { fallbackInterval, healthyInterval, retryBackoff, maxRetryBackoff,
            debounce := cfg.debounce, maxDebounce } ∧
      0 < retryBackoff ∧ retryBackoff ≤ maxRetryBackoff ∧
      (0 < cfg.debounce → cfg.debounce ≤ maxDebounce) := by
  unfold newRefreshCoordinator at h
  split at h
  · cases h
  · extract_lets fallbackInterval healthyInterval retryBackoff maxRetryBackoff maxDebounce at h
    split_ifs at h with hneg hmax hdeb
    cases h
    have hne : retryBackoff ≠ 0 := by
      simp only [retryBackoff]
      split_ifs with hz
      · decide
      · exact hz
    simp only [not_or, not_lt] at hneg hmax
    exact ⟨_, _, _, _, _, rfl, lt_of_le_of_ne hneg.2.2.1 hne.symm, hmax,
      fun hd => not_lt.mp fun hlt => hdeb ⟨hd, hlt⟩⟩

theorem newRefreshCoordinator_fresh {cfg : RefreshCoordinatorConfig} {c : RefreshCoordinator}
    (h : newRefreshCoordinator cfg = .ok c) : c.Fresh := by
  obtain ⟨_, _, _, _, _, rfl, -⟩ := newRefreshCoordinator_ok h
  exact ⟨rfl, fun _ => rfl, rfl, rfl, rfl⟩

namespace RefreshSystem

theorem Inv.init {c : RefreshCoordinator} (h : c.Fresh) :
    ({ coordinator := c } : RefreshSystem).Inv := by
  refine ⟨⟨?_, ?_, ?_⟩, h.inFlight, by simp, by simp, by simp⟩
  · simp [h.pending]
  · simp [h.streams]
  · simp [h.streams]

/-- The event invalidates the stream. Calls on a stopped coordinator return at once. -/
def Invalidates (s : RefreshSystem) (e : RefreshEvent) (x : RefreshStream) : Prop :=
  s.coordinator.stopped = false ∧
  match e.op with
  | .invalidateStream y _ => x = y
  | .setStreamCovered y covered =>
    x = y ∧ (s.coordinator.streams x).covered = false ∧ covered = true
  | .setStreamLive y live needsFullRefresh =>
    x = y ∧ (needsFullRefresh = true ∨
      (s.coordinator.streams x).live = false ∧ live = true ∧
        (s.coordinator.streams x).repaired = false)
  | _ => False

/-- The event takes the batch `w`. -/
def Takes (s : RefreshSystem) (e : RefreshEvent) (w : RefreshWork) : Prop :=
  e.op = .takeWork ∧ ∃ c, s.coordinator.takeWorkLocked e.env.now = some (w, c)

/-- The event finishes the batch `w` with a nil error. -/
def Succeeds (s : RefreshSystem) (e : RefreshEvent) (w : RefreshWork) : Prop :=
  e.op = .finishWork none ∧ s.work = some w

/-- What one event may do to one stream. An invalidation leaves it unrepaired, with a sequence no
batch taken so far has; otherwise a covered stream keeps its sequence, and only the successful
finish of a batch that reaches this sequence repairs it. -/
inductive StreamStep (s : RefreshSystem) (e : RefreshEvent) (x : RefreshStream)
    (state : RefreshStreamState) : Prop
  | invalidated (h : s.Invalidates e x) (repaired : state.repaired = false)
      (sequence : state.covered = true → s.coordinator.sequence < state.repairSequence)
  | kept (h : ¬ s.Invalidates e x)
      (sequence : state.covered = true → (s.coordinator.streams x).covered = true ∧
        state.repairSequence = (s.coordinator.streams x).repairSequence)
      (repaired : state.repaired = true → (s.coordinator.streams x).repaired = true)
  | repaired (h : ¬ s.Invalidates e x) {w : RefreshWork} (hw : s.Succeeds e w)
      (covered : (s.coordinator.streams x).covered = true)
      (live : (s.coordinator.streams x).live = true)
      (sequence : (s.coordinator.streams x).repairSequence ≤ w.batch.sequence)
      (eq : state = { s.coordinator.streams x with repaired := true })

variable {s : RefreshSystem} {e : RefreshEvent} {x : RefreshStream}

theorem StreamStep.same (h : ¬ s.Invalidates e x) : s.StreamStep e x (s.coordinator.streams x) :=
  .kept h (fun hc => ⟨hc, rfl⟩) id

theorem streamStep_setStreamLive (h : s.Inv) {env : CallEnv} (y : RefreshStream)
    (live needsFullRefresh : Bool) :
    s.StreamStep ⟨.setStreamLive y live needsFullRefresh, env⟩ x
      ((s.coordinator.setStreamLive y live needsFullRefresh env).streams x) := by
  by_cases hs : s.coordinator.stopped = true
  · rw [RefreshCoordinator.setStreamLive_of_stopped hs]
    exact .same (fun hi => by simp [hi.1] at hs)
  rw [Bool.not_eq_true] at hs
  by_cases hx : x = y
  · subst hx
    rw [s.coordinator.setStreamLive_self x live needsFullRefresh env hs]
    by_cases hi : s.Invalidates ⟨.setStreamLive x live needsFullRefresh, env⟩ x
    · rcases hi.2.2 with rfl | ⟨hwas, rfl, hrep⟩
      · refine .invalidated hi (by simp) (fun _ => ?_)
        simp only [if_true]
        split_ifs <;> omega
      · refine .invalidated hi (by simp [hrep]) (fun hc => ?_)
        dsimp only at hc ⊢
        rw [hwas, hrep, hc, if_pos (by simp)]
        split_ifs <;> omega
    · refine .kept hi (fun hc => ⟨hc, ?_⟩) (fun hr => (Bool.and_eq_true_iff.mp hr).1)
      have hpos := h.sequenced.covered x hc
      simp only [Invalidates, hs, true_and, not_or, not_and, Bool.not_eq_true] at hi
      obtain ⟨rfl, hlive⟩ := hi
      -- a stream that was live keeps its sequence, one that comes up repaired keeps everything
      cases hwas : (s.coordinator.streams x).live with
      | true => simp [hwas, hpos.ne']
      | false =>
        cases live with
        | false => simp
        | true => simp [hlive hwas rfl]
  · rw [s.coordinator.setStreamLive_ne x y live needsFullRefresh env hx]
    exact .same (fun hi => hx hi.2.1)

theorem streamStep_setStreamCovered {env : CallEnv} (y : RefreshStream) (covered : Bool) :
    s.StreamStep ⟨.setStreamCovered y covered, env⟩ x
      ((s.coordinator.setStreamCovered y covered env).streams x) := by
  by_cases hs : s.coordinator.stopped = true
  · rw [RefreshCoordinator.setStreamCovered_of_same (.inl hs)]
    exact .same (fun hi => by simp [hi.1] at hs)
  rw [Bool.not_eq_true] at hs
  by_cases hx : x = y
  · subst hx
    rw [s.coordinator.setStreamCovered_self x covered env hs]
    dsimp only
    split_ifs with heq hc
    · refine .same (fun hi => ?_)
      rw [hi.2.2.1, hi.2.2.2] at heq
      cases heq
    · exact .invalidated ⟨hs, rfl, by simpa [hc] using heq, hc⟩ rfl (fun _ => Nat.lt_succ_self _)
    · exact .kept (fun hi => hc hi.2.2.2) (by simp) (by simp)
  · rw [s.coordinator.setStreamCovered_ne x y covered env hx]
    exact .same (fun hi => hx hi.2.1)

theorem streamStep_invalidateStream {env : CallEnv} (y : RefreshStream) (reason : RefreshReason) :
    s.StreamStep ⟨.invalidateStream y reason, env⟩ x
      ((s.coordinator.invalidateStream y reason env).streams x) := by
  by_cases hs : s.coordinator.stopped = true
  · rw [RefreshCoordinator.invalidateStream_of_stopped hs]
    exact .same (fun hi => by simp [hi.1] at hs)
  rw [Bool.not_eq_true] at hs
  by_cases hx : x = y
  · subst hx
    rw [s.coordinator.invalidateStream_self x reason env hs]
    exact .invalidated ⟨hs, rfl⟩ rfl (fun _ => Nat.lt_succ_self _)
  · rw [s.coordinator.invalidateStream_ne x y reason env hx]
    exact .same (fun hi => hx hi.2)

theorem streamStep_finishWork {env : CallEnv} {w : RefreshWork} (hw : s.work = some w)
    (err : Option RefreshError) :
    s.StreamStep ⟨.finishWork err, env⟩ x ((s.coordinator.finishWork w err env).streams x) := by
  have hn : ¬ s.Invalidates ⟨.finishWork err, env⟩ x := fun hi => hi.2
  cases err with
  | some err =>
    rw [RefreshCoordinator.finishWork_err_streams]
    exact .same hn
  | none =>
    change s.StreamStep _ x
      (RefreshCoordinator.repairStream w.batch.sequence (s.coordinator.streams x))
    simp only [RefreshCoordinator.repairStream]
    split_ifs with hr
    · simp only [Bool.and_eq_true, decide_eq_true_eq] at hr
      exact .repaired hn ⟨rfl, hw⟩ hr.1.1.1.1 hr.1.1.1.2 hr.2 rfl
    · exact .same hn

theorem step_start_streams (s : RefreshSystem) (hasContext : Bool) (env : CallEnv) :
    (s.step ⟨.start hasContext, env⟩).coordinator.streams = s.coordinator.streams := by
  unfold RefreshSystem.step
  dsimp only
  cases hc : s.coordinator.start hasContext env with
  | ok c => exact RefreshCoordinator.start_streams _ env hc
  | error _ => rfl

theorem stream_step (h : s.Inv) (e : RefreshEvent) (x : RefreshStream) :
    s.StreamStep e x ((s.step e).coordinator.streams x) := by
  rcases e with ⟨op, env⟩
  cases op with
  | start hasContext =>
    rw [step_start_streams]
    exact .same (fun hi => hi.2)
  | stop => exact .same (fun hi => hi.2)
  | notify reason =>
    change s.StreamStep _ x ((s.coordinator.notify reason env).streams x)
    rw [RefreshCoordinator.notify_streams]
    exact .same (fun hi => hi.2)
  | setPaused paused =>
    change s.StreamStep _ x ((s.coordinator.setPaused paused env).streams x)
    rw [RefreshCoordinator.setPaused_streams]
    exact .same (fun hi => hi.2)
  | setStreamCovered y covered => exact streamStep_setStreamCovered y covered
  | setStreamLive y live needsFullRefresh =>
    exact streamStep_setStreamLive h y live needsFullRefresh
  | invalidateStream y reason => exact streamStep_invalidateStream y reason
  | handleTimer =>
    change s.StreamStep _ x ((s.coordinator.handleTimer env).streams x)
    rw [RefreshCoordinator.handleTimer_streams]
    exact .same (fun hi => hi.2)
  | takeWork =>
    have he : (s.step ⟨.takeWork, env⟩).coordinator.streams = s.coordinator.streams := by
      obtain hsame | htaken := s.step_takeWork env
      · rw [hsame]
      · rw [htaken]
    rw [he]
    exact .same (fun hi => hi.2)
  | finishWork err =>
    unfold RefreshSystem.step
    dsimp only
    cases hw : s.work with
    | none => exact .same (fun hi => hi.2)
    | some w => exact streamStep_finishWork hw err
  | exit =>
    have he : (s.step ⟨.exit, env⟩).coordinator.streams = s.coordinator.streams := by
      unfold RefreshSystem.step
      dsimp only
      split_ifs <;> rfl
    rw [he]
    exact .same (fun hi => hi.2)

/-- What one event does to the work in hand. -/
theorem work_step (h : s.Inv) (e : RefreshEvent) :
    (∃ w, s.Takes e w ∧ s.work = none ∧ (s.step e).work = some w) ∨
    (s.step e).work = s.work ∨
    (∃ err, e.op = .finishWork err) ∧ (s.step e).work = none := by
  rcases e with ⟨op, env⟩
  cases op with
  | start hasContext =>
    unfold RefreshSystem.step
    dsimp only
    split <;> simp
  | takeWork =>
    unfold RefreshSystem.step
    dsimp only
    cases ht : s.coordinator.takeWorkLocked env.now with
    | none => simp
    | some p =>
      have hn : s.work = none := by
        have hf := (takeWorkLocked_some ht).1
        rw [h.inFlight] at hf
        simpa using hf
      exact .inl ⟨p.1, ⟨rfl, p.2, ht⟩, hn, rfl⟩
  | finishWork err =>
    unfold RefreshSystem.step
    dsimp only
    split <;> simp_all
  | exit =>
    unfold RefreshSystem.step
    dsimp only
    split_ifs <;> simp
  | _ => exact .inr (.inl rfl)

/-- What a record of takes, finishes and invalidations says about the state it led to: a stream the
batch in hand reaches was not invalidated since the take, and a repaired stream has its batch. The
three relations place each of them at a position of the record. -/
structure RepairFacts (taken : Nat → RefreshWork → Prop)
    (finished : Nat → RefreshWork → RefreshStream → Prop) (invalid : RefreshStream → Nat → Prop)
    (s : RefreshSystem) : Prop where
  inv : s.Inv
  inHand : ∀ w, s.work = some w → ∀ x, (s.coordinator.streams x).covered = true →
    (s.coordinator.streams x).repairSequence ≤ w.batch.sequence →
    ∃ i, taken i w ∧ ∀ k, invalid x k → k < i
  repaired : ∀ x, (s.coordinator.streams x).repaired = true →
    ∃ i j w, i < j ∧ taken i w ∧ finished j w x ∧ ∀ k, invalid x k → k < i

section Facts
variable {taken taken' : Nat → RefreshWork → Prop}
  {finished finished' : Nat → RefreshWork → RefreshStream → Prop}
  {invalid invalid' : RefreshStream → Nat → Prop}

/-- As long as no stream has been touched there is nothing to account for. -/
theorem RepairFacts.untouched (h : s.Inv) (hs : ∀ x, s.coordinator.streams x = {}) :
    RepairFacts taken finished invalid s :=
  ⟨h, by simp [hs], by simp [hs]⟩

theorem RepairFacts.mono (h : RepairFacts taken finished invalid s)
    (ht : ∀ i w, taken i w → taken' i w) (hf : ∀ j w x, finished j w x → finished' j w x)
    (hi : ∀ x k, invalid' x k → invalid x k) : RepairFacts taken' finished' invalid' s := by
  refine ⟨h.inv, ?_, ?_⟩
  · intro w hw x hc hseq
    obtain ⟨i, hti, hx⟩ := h.inHand w hw x hc hseq
    exact ⟨i, ht i w hti, fun k hk => hx k (hi x k hk)⟩
  · intro x hr
    obtain ⟨i, j, w, hij, hti, hfj, hx⟩ := h.repaired x hr
    exact ⟨i, j, w, hij, ht i w hti, hf j w x hfj, fun k hk => hx k (hi x k hk)⟩

/-- How the record of one more event has to extend the record before it. -/
structure Records (n : Nat) (s : RefreshSystem) (e : RefreshEvent)
    (taken taken' : Nat → RefreshWork → Prop)
    (finished finished' : Nat → RefreshWork → RefreshStream → Prop)
    (invalid invalid' : RefreshStream → Nat → Prop) : Prop where
  taken_mono : ∀ i w, taken i w → taken' i w
  taken_lt : ∀ i w, taken i w → i < n
  take : ∀ w, s.Takes e w → taken' n w
  finished_mono : ∀ j w x, finished j w x → finished' j w x
  finish : ∀ w x, s.Succeeds e w → (s.coordinator.streams x).covered = true →
    (s.coordinator.streams x).live = true → finished' n w x
  invalid_lt : ∀ x k, invalid x k → k < n
  invalidate : ∀ x k, invalid' x k → invalid x k ∨ s.Invalidates e x

theorem RepairFacts.step {n : Nat} (h : RepairFacts taken finished invalid s)
    (hr : Records n s e taken taken' finished finished' invalid invalid') :
    RepairFacts taken' finished' invalid' (s.step e) := by
  -- a position after every old mark of a stream that is not invalidated now stays after every mark
  have old {x : RefreshStream} (hn : ¬ s.Invalidates e x) {i : Nat}
      (hi : ∀ k, invalid x k → k < i) : ∀ k, invalid' x k → k < i := by
    intro k hk
    exact hi k ((hr.invalidate x k hk).resolve_right hn)
  refine ⟨h.inv.step e, ?_, ?_⟩
  · intro w hw x hc hseq
    rcases work_step h.inv e with ⟨w', ht, -, hw'⟩ | hsame | ⟨-, hnone⟩
    · obtain rfl : w' = w := by simpa [hw'] using hw
      have hn : ¬ s.Invalidates e x := by
        rw [Invalidates, ht.1]
        exact fun hi => hi.2
      exact ⟨n, hr.take w' ht, old hn (hr.invalid_lt x)⟩
    · rw [hsame] at hw
      have hle := h.inv.work_le w hw
      have from_old (hn : ¬ s.Invalidates e x) (hc : (s.coordinator.streams x).covered = true)
          (hseq : (s.coordinator.streams x).repairSequence ≤ w.batch.sequence) :
          ∃ i, taken' i w ∧ ∀ k, invalid' x k → k < i := by
        obtain ⟨i, hi, hx⟩ := h.inHand w hw x hc hseq
        exact ⟨i, hr.taken_mono i w hi, old hn hx⟩
      cases stream_step h.inv e x with
      | invalidated _ _ hgt =>
        have := hgt hc
        omega
      | kept hn hkept _ =>
        obtain ⟨hc', hs'⟩ := hkept hc
        exact from_old hn hc' (hs' ▸ hseq)
      | repaired hn _ hc' _ _ heq => exact from_old hn hc' (by rwa [heq] at hseq)
    · rw [hnone] at hw
      cases hw
  · intro x hrep
    cases stream_step h.inv e x with
    | invalidated _ hfalse _ =>
      rw [hfalse] at hrep
      cases hrep
    | kept hn _ hkept =>
      obtain ⟨i, j, w, hij, hi, hj, hx⟩ := h.repaired x (hkept hrep)
      exact ⟨i, j, w, hij, hr.taken_mono i w hi, hr.finished_mono j w x hj, old hn hx⟩
    | @repaired hn w hw hc hl hseq _ =>
      obtain ⟨i, hi, hx⟩ := h.inHand w hw.2 x hc hseq
      exact ⟨i, n, w, hr.taken_lt i w hi, hr.taken_mono i w hi, hr.finish w x hw hc hl, old hn hx⟩

end Facts

section History
variable (s₀ : RefreshSystem) (es : List RefreshEvent)

/-- Batch `w` was taken at position `i` of the run and finished with a nil error at position `j`,
with the stream covered and live, and no later event than the take invalidated the stream. -/
structure RepairedBy (x : RefreshStream) (i j : Nat) (w : RefreshWork) : Prop where
  lt : i < j
  taken : EventAt step s₀ es i (fun s e => s.Takes e w)
  finished : EventAt step s₀ es j (fun s e => s.Succeeds e w ∧
    (s.coordinator.streams x).covered = true ∧ (s.coordinator.streams x).live = true)
  invalidated : ∀ k, EventAt step s₀ es k (fun s e => s.Invalidates e x) → k < i

/-- The facts for the run itself as the record. -/
def RepairHistory (s : RefreshSystem) : Prop :=
  RepairFacts (fun i w => EventAt step s₀ es i (fun s e => s.Takes e w))
    (fun j w x => EventAt step s₀ es j (fun s e => s.Succeeds e w ∧
      (s.coordinator.streams x).covered = true ∧ (s.coordinator.streams x).live = true))
    (fun x k => EventAt step s₀ es k (fun s e => s.Invalidates e x)) s

end History

variable {s₀ : RefreshSystem} {es : List RefreshEvent}

theorem RepairHistory.concat (h : RepairHistory s₀ es (exec step s₀ es)) :
    RepairHistory s₀ (es ++ [e]) ((exec step s₀ es).step e) := by
  apply RepairFacts.step (n := es.length) h
  exact {
    taken_mono := fun i w hi => hi.concat
    taken_lt := fun i w hi => hi.lt_length
    take := fun w hw => EventAt.last hw
    finished_mono := fun j w x hj => hj.concat
    finish := fun w x hw hc hl => EventAt.last ⟨hw, hc, hl⟩
    invalid_lt := fun x k hk => hk.lt_length
    invalidate := fun x k hk => hk.of_concat.imp_right And.right }

theorem RepairHistory.repairedBy {s : RefreshSystem} (h : RepairHistory s₀ es s)
    (hr : (s.coordinator.streams x).repaired = true) : ∃ i j w, RepairedBy s₀ es x i j w := by
  obtain ⟨i, j, w, hij, hi, hj, hx⟩ := RepairFacts.repaired h x hr
  exact ⟨i, j, w, hij, hi, hj, hx⟩

theorem repairHistory {c : RefreshCoordinator} (hc : c.Fresh) (es : List RefreshEvent) :
    RepairHistory { coordinator := c } es (exec step { coordinator := c } es) := by
  refine exec_history (P := fun es s => RepairHistory { coordinator := c } es s) ?_ ?_ es
  · exact RepairFacts.untouched (.init hc) hc.streams
  · intro es e h
    exact h.concat

/-- The event ends the refresh in flight. -/
def Finishes (e : RefreshEvent) : Prop := ∃ err, e.op = .finishWork err

/-- A refresh in flight stays in hand until it finishes. -/
theorem work_persists {c : RefreshCoordinator} (hc : c.Fresh) {k m : Nat} (hkm : k ≤ m)
    {w : RefreshWork} (hw : (stateAt step { coordinator := c } es k).work = some w)
    (hn : ∀ l, k ≤ l → l < m →
      ¬ EventAt step { coordinator := c } es l (fun _ e => Finishes e)) :
    (stateAt step { coordinator := c } es m).work = some w := by
  refine stateAt_from (P := fun _ (s : RefreshSystem) => s.work = some w) hkm hw
    (fun _ _ h => h) ?_
  intro l e hkl hlm he hwork
  have hinv := stateAt_invariant (Inv.init hc) (fun _ e h => Inv.step h e) es l
  rcases work_step hinv e with ⟨w', -, hnone, -⟩ | hsame | ⟨hfin, -⟩
  · rw [hnone] at hwork
    cases hwork
  · rw [hsame, hwork]
  · exact absurd ⟨e, he, hfin⟩ (hn l hkl hlm)

/-- Repair soundness: a repaired stream owes it to a batch taken after its last invalidation and
finished without error; a batch that was already in flight at an invalidation does not repair the
stream when it finishes. -/
theorem repaired_sound {cfg : RefreshCoordinatorConfig} {c : RefreshCoordinator}
    (hc : newRefreshCoordinator cfg = .ok c) (es : List RefreshEvent) (x : RefreshStream) :
    (((exec step { coordinator := c } es).coordinator.streams x).repaired = true →
      ∃ i j w, RepairedBy { coordinator := c } es x i j w) ∧
    ∀ k m, k < m →
      EventAt step { coordinator := c } es k
        (fun s e => s.Invalidates e x ∧ s.coordinator.inFlight = true) →
      EventAt step { coordinator := c } es m (fun _ e => Finishes e) →
      (∀ l, k < l → l < m → ¬ EventAt step { coordinator := c } es l (fun _ e => Finishes e)) →
      ((stateAt step { coordinator := c } es (m + 1)).coordinator.streams x).repaired = false := by
  have hf := newRefreshCoordinator_fresh hc
  refine ⟨fun hr => (repairHistory hf es).repairedBy hr, ?_⟩
  intro k m hkm hk hm hbetween
  by_contra hr
  rw [Bool.not_eq_false] at hr
  obtain ⟨i, j, w, hb⟩ := (repairHistory hf (es.take (m + 1))).repairedBy hr
  have hj : j < m + 1 := by simpa using hb.finished.lt_length.trans_le (List.length_take_le _ _)
  have hi : i < m + 1 := hb.lt.trans hj
  have hki := hb.invalidated k
    ((eventAt_take (by omega)).mpr (hk.mono (fun _ _ h => h.1)))
  obtain ⟨e, he, ht⟩ := (eventAt_take hi).mp hb.taken
  have hjm : j = m := by
    by_contra hne
    apply hbetween j (hki.trans hb.lt) (by omega)
    exact ((eventAt_take hj).mp hb.finished).mono (fun _ _ h => ⟨none, h.1.1⟩)
  have hinv (n : Nat) := stateAt_invariant (Inv.init hf) (fun _ e h => Inv.step h e) es n
  -- the work in hand at the invalidation is still there when the repairing batch is taken
  obtain ⟨f, hfk, hinvalid, hflight⟩ := hk
  obtain ⟨v, hv⟩ := Option.isSome_iff_exists.mp ((hinv k).inFlight ▸ hflight)
  have hvi := work_persists hf hki.le hv (fun l hl hli hfin => by
    rcases Nat.eq_or_lt_of_le hl with rfl | hl
    · obtain ⟨g, hg, err, herr⟩ := hfin
      obtain rfl : g = f := Option.some.inj (hg.symm.trans hfk)
      rw [Invalidates, herr] at hinvalid
      exact hinvalid.2
    · exact hbetween l hl (by omega) hfin)
  obtain ⟨c', hc'⟩ := ht.2
  have hidle := (takeWorkLocked_some hc').1
  rw [(hinv i).inFlight, hvi] at hidle
  cases hidle

/-- A covered topology stream comes up and the refresh taken after that succeeds. -/
def topologyRepair : List RefreshEvent :=
  [⟨.start true, { now := 1 }⟩, ⟨.setStreamCovered refreshStreamTopology true, { now := 2 }⟩,
    ⟨.setStreamLive refreshStreamTopology true false, { now := 3 }⟩, ⟨.takeWork, { now := 4 }⟩,
    ⟨.finishWork none, { now := 5 }⟩]

theorem repaired_sound_topology :
    ((exec step { coordinator := defaultCoordinator } topologyRepair).coordinator.streams
      refreshStreamTopology).repaired = true ∧
    ∃ i j w, RepairedBy { coordinator := defaultCoordinator } topologyRepair
      refreshStreamTopology i j w := by
  have hr : ((exec step { coordinator := defaultCoordinator } topologyRepair).coordinator.streams
      refreshStreamTopology).repaired = true := by decide
  exact ⟨hr, (repaired_sound newRefreshCoordinator_default topologyRepair
    refreshStreamTopology).1 hr⟩

end RefreshSystem

end Meshd.Engine

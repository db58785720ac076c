import Meshd.Engine.Refresh.Retention
import Meshd.Engine.Refresh.RetryFloor

namespace Meshd.Engine

open Meshd.Framework

/-- An entry after an enqueue was there before, no higher, or is the one enqueued. -/
theorem lookup_enqueuePending_cases {pending : GoMap Nat} {reason k : RefreshReason}
    {sequence n : Nat} (h : (enqueuePending pending reason sequence).lookup k = some n) :
    (∃ m, pending.lookup k = some m ∧ m ≤ n) ∨
    pending.lookup k = none ∧ k = reason ∧ n = sequence := by
  rw [lookup_enqueuePending] at h
  split_ifs at h with hk
  · have hn := Option.some.inj h
    cases hl : pending.lookup k with
    | none =>
      rw [hl] at hn
      exact .inr ⟨rfl, hk, by simpa using hn.symm⟩
    | some m =>
      rw [hl] at hn
      exact .inl ⟨m, rfl, by simp only [Option.getD_some] at hn; omega⟩
  · exact .inl ⟨n, h, le_rfl⟩

theorem lookup_erase_cases {pending : GoMap Nat} {reason k : RefreshReason} {n : Nat}
    (h : (pending.erase reason).lookup k = some n) : pending.lookup k = some n := by
  by_cases hk : k = reason
  · subst hk
    simp at h
  · rwa [AList.lookup_erase_ne hk] at h

/-- The batch sequence is the sequence of one of its entries. -/
theorem exists_maxSequence {pending : GoMap Nat} (h : GoMap.isEmpty pending = false) :
    ∃ k, pending.lookup k = some (maxSequence pending.entries) := by
  have hg (entries : List (Σ _ : String, Nat)) (a : Nat) :
      entries.foldl (fun sequence item => if item.2 > sequence then item.2 else sequence) a = a ∨
      ∃ e ∈ entries, e.2 =
        entries.foldl (fun sequence item => if item.2 > sequence then item.2 else sequence) a := by
    induction entries generalizing a with
    | nil => exact .inl rfl
    | cons e es ih =>
      rw [List.foldl_cons]
      rcases ih (if e.2 > a then e.2 else a) with hsame | ⟨e', he', hmax⟩
      · rw [hsame]
        split_ifs
        · exact .inr ⟨e, by simp, rfl⟩
        · exact .inl rfl
      · exact .inr ⟨e', by simp [he'], hmax⟩
  rcases hg pending.entries 0 with hzero | ⟨e, he, hmax⟩
  · -- every entry is at most the maximum, so one of them is zero too
    obtain ⟨k, n, hn⟩ := GoMap.exists_lookup_of_not_empty h
    have hle := le_maxSequence hn
    have hz : maxSequence pending.entries = 0 := hzero
    have hn0 : n = 0 := by omega
    exact ⟨k, by rw [hn, hz, hn0]⟩
  · exact ⟨e.1, by rw [mem_entries_of_lookup he, hmax]; rfl⟩

namespace RefreshCoordinator

variable {c : RefreshCoordinator}

/-- The entry was queued before, no higher, or has a number given out since. -/
def Carried (c : RefreshCoordinator) (k : RefreshReason) (n : Nat) : Prop :=
  (∃ m, c.pending.lookup k = some m ∧ m ≤ n) ∨ c.sequence < n

/-- Every entry of the later queue is carried over or new. -/
def Carries (c c' : RefreshCoordinator) : Prop :=
  ∀ k n, c'.pending.lookup k = some n → c.Carried k n

theorem Carries.refl (c : RefreshCoordinator) : Carries c c := fun _ n h => .inl ⟨n, h, le_rfl⟩

theorem Carries.enqueueAt {d : RefreshCoordinator} (h : Carries c d) (reason : RefreshReason)
    {sequence : Nat} (hs : c.sequence < sequence) : Carries c (d.enqueueAtLocked reason sequence) := by
  intro k n hk
  rcases lookup_enqueuePending_cases hk with ⟨m, hm, hle⟩ | ⟨-, -, rfl⟩
  · rcases h k m hm with ⟨m', hm', hle'⟩ | hlt
    · exact .inl ⟨m', hm', hle'.trans hle⟩
    · exact .inr (by omega)
  · exact .inr hs

theorem Carries.enqueue {d : RefreshCoordinator} (h : Carries c d)
    (hs : c.sequence ≤ d.sequence) (reason : RefreshReason) :
    Carries c (d.enqueueLocked reason) :=
  Carries.enqueueAt (d := { d with sequence := d.sequence + 1 }) h reason
    (Nat.lt_succ_of_le hs)

theorem Carries.of_pending {d d' : RefreshCoordinator} (h : Carries c d)
    (hp : d'.pending = d.pending) : Carries c d' := by
  intro k n hk
  exact h k n (hp ▸ hk)

theorem Carries.drop {d : RefreshCoordinator} (h : Carries c d) (y : RefreshStream) :
    Carries c (d.dropPending y) := by
  intro k n hk
  rw [dropPending_pending] at hk
  exact h k n (lookup_erase_cases hk)

section Calls
variable (c) (env : CallEnv)

theorem carries_start {hasContext : Bool} {c' : RefreshCoordinator}
    (h : c.start hasContext env = .ok c') : Carries c c' := by
  simp only [start] at h
  split_ifs at h
  cases h
  exact (Carries.enqueue (d := { c with started := true, running := true }) (Carries.refl c)
    le_rfl _).of_pending rfl

theorem carries_notify (reason : RefreshReason) : Carries c (c.notify reason env) := by
  simp only [notify]
  split_ifs
  · exact .refl c
  · exact ((Carries.refl c).enqueue le_rfl _).of_pending (deferPendingLocked_pending _ _)

theorem carries_setPaused (paused : Bool) : Carries c (c.setPaused paused env) := by
  unfold setPaused
  dsimp only
  split_ifs
  · exact .refl c
  · exact (Carries.enqueue (d := { c with paused := paused }) (Carries.refl c) le_rfl
      _).of_pending (deferPendingLocked_pending _ _)
  · exact .refl c

theorem carries_handleTimer : Carries c (c.handleTimer env) := by
  simp only [handleTimer]
  split_ifs
  · exact ((Carries.refl c).enqueue le_rfl _).of_pending rfl
  · exact .refl c

theorem carries_setStreamCovered (y : RefreshStream) (covered : Bool) :
    Carries c (c.setStreamCovered y covered env) := by
  unfold setStreamCovered
  dsimp only
  split_ifs
  · exact .refl c
  · exact .refl c
  · exact (Carries.drop (d := c.modifyStream y fun state => { state with
      covered := false, live := false, repaired := false, repairSequence := 0 })
      ((Carries.refl c).of_pending rfl) y).of_pending rfl
  · refine (Carries.enqueueAt (d := (c.modifyStream y fun state =>
      { state with covered := true }).markStale y) ((Carries.refl c).of_pending rfl) _
      ?_).of_pending rfl
    simp
  · exact (Carries.refl c).of_pending rfl

theorem carries_invalidateStream (y : RefreshStream) (reason : RefreshReason) :
    Carries c (c.invalidateStream y reason env) := by
  have hsame : Carries c (c.markStale y) := (Carries.refl c).of_pending rfl
  unfold invalidateStream
  dsimp only
  split_ifs
  · exact .refl c
  · refine (hsame.enqueueAt (reasonForStream y) ?_).of_pending (deferPendingLocked_pending _ _)
    simp
  · refine (hsame.enqueueAt reason ?_).of_pending (deferPendingLocked_pending _ _)
    simp
  · exact hsame

theorem carries_reportLive (y : RefreshStream) (live needsFullRefresh : Bool) :
    Carries c (c.reportLive y live needsFullRefresh) := by
  have hsame : Carries c ((c.modifyStream y fun state => { state with live := live }).markStale y) :=
    (Carries.refl c).of_pending rfl
  unfold reportLive
  dsimp only
  split_ifs
  · exact hsame.drop y
  · exact hsame
  · exact hsame

/-- A lifecycle report queues a new number, unless it says again that a stale stream is live: then
it may file the repair under the number the stream was given before. -/
theorem lookup_setStreamLive (hseq : c.Sequenced) (y : RefreshStream)
    (live needsFullRefresh : Bool) {k : RefreshReason} {n : Nat}
    (h : (c.setStreamLive y live needsFullRefresh env).pending.lookup k = some n) :
    c.Carried k n ∨ live = true ∧ needsFullRefresh = false ∧ c.Stale y ∧
      c.pending.lookup k = none ∧ k = pendingKey (reasonForStream y) ∧
      n = (c.streams y).repairSequence := by
  have hr := c.carries_reportLive y live needsFullRefresh
  have hle := (hseq.advances.reportLive y live needsFullRefresh).sequence
  unfold setStreamLive at h
  dsimp only at h
  by_cases hs : c.stopped = true
  · rw [if_pos hs] at h
    exact .inl (Carries.refl c k n h)
  rw [if_neg hs] at h
  by_cases hcond : (live && ((c.reportLive y live needsFullRefresh).streams y).covered &&
      !((c.reportLive y live needsFullRefresh).streams y).repaired) = true
  · have hq : ((c.reportLive y live needsFullRefresh).queueRepair y
        (c.streams y).live).pending.lookup k = some n := by
      split_ifs at h <;> exact h
    unfold queueRepair at hq
    dsimp only at hq
    split_ifs at hq with hnew
    · refine .inl (Carries.enqueueAt (d := (c.reportLive y live needsFullRefresh).markStale y)
        (hr.of_pending rfl) _ ?_ k n hq)
      simp only [markStale_self]
      omega
    · rcases lookup_enqueuePending_cases hq with ⟨m, hm, hmn⟩ | ⟨hnone, hk, hn⟩
      · rcases hr k m hm with ⟨m', hm', hle'⟩ | hlt
        · exact .inl (.inl ⟨m', hm', hle'.trans hmn⟩)
        · exact .inl (.inr (by omega))
      · simp only [Bool.or_eq_true, Bool.not_eq_true', not_or, Bool.not_eq_false] at hnew
        cases needsFullRefresh with
        | true =>
          -- the report itself gave the stream a new number
          refine .inl (.inr ?_)
          rw [hn]
          cases live <;> simp [reportLive]
        | false =>
          simp only [Bool.and_eq_true, Bool.not_eq_true'] at hcond
          simp only [reportLive, Bool.false_eq_true, if_false, modifyStream_self] at hcond hn
          exact .inr ⟨hcond.1.1, rfl, ⟨hcond.1.2, hnew.1, hcond.2⟩, hnone, hk, hn⟩
  · have hq : (c.reportLive y live needsFullRefresh).pending.lookup k = some n := by
      split_ifs at h <;> exact h
    exact .inl (hr k n hq)

/-- A stale stream was stale before with the same number, or has a number given out since. -/
def StaleFrom (c c' : RefreshCoordinator) : Prop :=
  ∀ x, c'.Stale x →
    c.Stale x ∧ (c'.streams x).repairSequence = (c.streams x).repairSequence ∨
    c.sequence < (c'.streams x).repairSequence

theorem StaleFrom.of_streams {c c' : RefreshCoordinator} (h : c'.streams = c.streams) :
    StaleFrom c c' := by
  intro x hx
  simp only [Stale, h] at hx ⊢
  exact .inl ⟨hx, trivial⟩

theorem staleFrom_setStreamLive (y : RefreshStream) (live needsFullRefresh : Bool) :
    StaleFrom c (c.setStreamLive y live needsFullRefresh env) := by
  intro x h
  by_cases hs : c.stopped = true
  · rw [setStreamLive_of_stopped hs] at h ⊢
    exact .inl ⟨h, rfl⟩
  rw [Bool.not_eq_true] at hs
  by_cases hx : x = y
  · subst hx
    simp only [Stale] at h ⊢
    rw [c.setStreamLive_self x live needsFullRefresh env hs] at h ⊢
    obtain ⟨hc, hl, hr⟩ := h
    dsimp only at hc hl hr ⊢
    subst hl
    cases needsFullRefresh with
    | true =>
      refine .inr ?_
      simp only [if_true]
      split_ifs <;> omega
    | false =>
      simp only [Bool.not_false, Bool.and_true, Bool.false_eq_true, if_false] at hr ⊢
      split_ifs with hnew
      · exact .inr (Nat.lt_succ_self _)
      · have hlive : (c.streams x).live = true := by
          by_contra hl
          rw [Bool.not_eq_true] at hl
          simp [hc, hr, hl] at hnew
        exact .inl ⟨⟨hc, hlive, hr⟩, rfl⟩
  · simp only [Stale] at h ⊢
    rw [c.setStreamLive_ne x y live needsFullRefresh env hx] at h ⊢
    exact .inl ⟨h, rfl⟩

theorem staleFrom_setStreamCovered (y : RefreshStream) (covered : Bool) :
    StaleFrom c (c.setStreamCovered y covered env) := by
  intro x h
  by_cases hs : c.stopped = true
  · rw [setStreamCovered_of_same (.inl hs)] at h ⊢
    exact .inl ⟨h, rfl⟩
  rw [Bool.not_eq_true] at hs
  by_cases hx : x = y
  · subst hx
    simp only [Stale] at h ⊢
    rw [c.setStreamCovered_self x covered env hs] at h ⊢
    dsimp only at h ⊢
    split_ifs at h ⊢
    · exact .inl ⟨h, rfl⟩
    · exact .inr (Nat.lt_succ_self _)
    · exact absurd h.1 (by simp)
  · simp only [Stale] at h ⊢
    rw [c.setStreamCovered_ne x y covered env hx] at h ⊢
    exact .inl ⟨h, rfl⟩

theorem staleFrom_invalidateStream (y : RefreshStream) (reason : RefreshReason) :
    StaleFrom c (c.invalidateStream y reason env) := by
  intro x h
  by_cases hs : c.stopped = true
  · rw [invalidateStream_of_stopped hs] at h ⊢
    exact .inl ⟨h, rfl⟩
  rw [Bool.not_eq_true] at hs
  by_cases hx : x = y
  · subst hx
    rw [c.invalidateStream_self x reason env hs]
    exact .inr (Nat.lt_succ_self _)
  · simp only [Stale] at h ⊢
    rw [c.invalidateStream_ne x y reason env hx] at h ⊢
    exact .inl ⟨h, rfl⟩

end Calls

end RefreshCoordinator

namespace RefreshSystem

variable {s : RefreshSystem} {e : RefreshEvent} {M : Nat}

/-- The event says again that a live and stale stream is live. -/
def Repeats (s : RefreshSystem) (e : RefreshEvent) (y : RefreshStream) : Prop :=
  s.coordinator.stopped = false ∧ e.op = .setStreamLive y true false ∧ s.coordinator.Stale y

/-- Between a failure and the retry no queue entry as high as the sequence `M` is deleted, unless
another one is as high; and no report files a lower repair while a batch is in hand. -/
structure KeepsOrder (M : Nat) (s : RefreshSystem) (e : RefreshEvent) : Prop where
  drop : ∀ k, s.Drops e k → Owed s.coordinator.pending k M →
    s.coordinator.consecutiveFailures = 0 ∨ s.coordinator.inFlight = true ∨
    ∃ k' ≠ k, Owed s.coordinator.pending k' M
  repeats : ∀ y, s.Repeats e y → s.coordinator.inFlight = true →
    M ≤ (s.coordinator.streams y).repairSequence ∨
    Owed s.coordinator.pending (pendingKey (reasonForStream y))
      (s.coordinator.streams y).repairSequence

/-- Once a batch of sequence `M` has been taken: the batch in hand is no lower. After a failure some
queued entry is no lower; otherwise all of them are, and so is the number of every stream whose
repair can still be filed. -/
structure Ordered (M : Nat) (s : RefreshSystem) : Prop where
  sequence : M ≤ s.coordinator.sequence
  inHand : ∀ w, s.work = some w → ∃ k, Owed w.pending k M
  failed : s.work = none → s.coordinator.consecutiveFailures ≠ 0 →
    ∃ k, Owed s.coordinator.pending k M
  queued : s.work.isSome = true ∨ s.coordinator.consecutiveFailures = 0 →
    ∀ k n, s.coordinator.pending.lookup k = some n → M ≤ n
  stale : s.work = none → s.coordinator.consecutiveFailures = 0 →
    ∀ x, s.coordinator.Stale x → M ≤ (s.coordinator.streams x).repairSequence

theorem Drops.eq {k k' : RefreshReason} (h : s.Drops e k) (h' : s.Drops e k') : k' = k := by
  obtain ⟨-, h⟩ := h
  obtain ⟨-, h'⟩ := h'
  rcases e with ⟨op, env⟩
  cases op with
  | setStreamCovered y covered => exact h'.1.trans h.1.symm
  | setStreamLive y live needsFullRefresh => exact h'.1.trans h.1.symm
  | _ => exact h.elim

/-- After a failure the queue keeps an entry as high as the failed batch. -/
theorem KeepsOrder.owed (hk : KeepsOrder M s e) (hi : s.Inv) (hw : s.work = none)
    (hw' : (s.step e).work = none) (hf : s.coordinator.consecutiveFailures ≠ 0)
    (h : ∃ k, Owed s.coordinator.pending k M) :
    ∃ k, Owed (s.step e).coordinator.pending k M := by
  have queued {k : RefreshReason} (ho : Owed s.coordinator.pending k M) (hd : ¬ s.Drops e k) :
      ∃ k, Owed (s.step e).coordinator.pending k M := by
    rcases held_of_owed ho hd with ho | ⟨w, hw'', -⟩
    · exact ⟨k, ho⟩
    · rw [hw'] at hw''
      cases hw''
  obtain ⟨k, ho⟩ := h
  by_cases hd : s.Drops e k
  · rcases hk.drop k hd ho with hzero | hflight | ⟨k', hne, ho⟩
    · exact absurd hzero hf
    · rw [hi.inFlight, hw] at hflight
      cases hflight
    · exact queued ho (fun hd' => hne (hd.eq hd'))
  · exact queued ho hd

theorem Ordered.of_carried (h : s.Ordered M)
    (hq : s.work.isSome = true ∨ s.coordinator.consecutiveFailures = 0) {k : RefreshReason}
    {n : Nat} (hc : s.coordinator.Carried k n) : M ≤ n := by
  rcases hc with ⟨m, hm, hle⟩ | hlt
  · exact (h.queued hq k m hm).trans hle
  · exact h.sequence.trans hlt.le

/-- A call that leaves the worker alone and numbers what it adds to the queue anew. -/
theorem Ordered.of_call (h : s.Ordered M) (hi : s.Inv) (hk : KeepsOrder M s e)
    (hw : (s.step e).work = s.work)
    (hf : (s.step e).coordinator.consecutiveFailures = s.coordinator.consecutiveFailures)
    (hs : s.coordinator.sequence ≤ (s.step e).coordinator.sequence)
    (hq : s.work.isSome = true ∨ s.coordinator.consecutiveFailures = 0 →
      ∀ k n, (s.step e).coordinator.pending.lookup k = some n →
        s.coordinator.Carried k n ∨ M ≤ n)
    (hst : s.coordinator.StaleFrom (s.step e).coordinator) : (s.step e).Ordered M := by
  refine ⟨h.sequence.trans hs, ?_, ?_, ?_, ?_⟩
  · rw [hw]
    exact h.inHand
  · intro hnone hfail
    rw [hf] at hfail
    have hnone' := hw ▸ hnone
    exact hk.owed hi hnone' hnone hfail (h.failed hnone' hfail)
  · rw [hw, hf]
    intro hphase k n hn
    rcases hq hphase k n hn with hc | hle
    · exact h.of_carried hphase hc
    · exact hle
  · rw [hw, hf]
    intro hnone hzero x hx
    rcases hst x hx with ⟨hx', heq⟩ | hlt
    · rw [heq]
      exact h.stale hnone hzero x hx'
    · exact h.sequence.trans hlt.le

/-- Whatever is taken next is no lower. -/
theorem Ordered.exists_owed (h : s.Ordered M) (hw : s.work = none)
    (hp : GoMap.isEmpty s.coordinator.pending = false) : ∃ k, Owed s.coordinator.pending k M := by
  by_cases hf : s.coordinator.consecutiveFailures = 0
  · obtain ⟨k, n, hn⟩ := GoMap.exists_lookup_of_not_empty hp
    exact ⟨k, n, hn, h.queued (.inr hf) k n hn⟩
  · exact h.failed hw hf

theorem Ordered.take (h : s.Ordered M) (hi : s.Inv) {now : Time} {w : RefreshWork}
    {c : RefreshCoordinator} (ht : s.coordinator.takeWorkLocked now = some (w, c)) :
    ({ coordinator := c, work := some w } : RefreshSystem).Ordered M ∧ M ≤ w.batch.sequence := by
  obtain ⟨hflight, hp, hwp, hb, rfl⟩ := takeWorkLocked_some ht
  have hw : s.work = none := by
    rw [hi.inFlight] at hflight
    simpa using hflight
  obtain ⟨k, n, hn, hle⟩ := h.exists_owed hw hp
  refine ⟨⟨h.sequence, ?_, by simp, by simp, by simp⟩, ?_⟩
  · rintro _ ⟨⟩
    exact ⟨k, n, hwp ▸ hn, hle⟩
  · rw [hb]
    exact hle.trans (le_maxSequence hn)

theorem Ordered.finish (h : s.Ordered M) (hi : s.Inv) {w : RefreshWork} (hw : s.work = some w)
    (err : Option RefreshError) (env : CallEnv) :
    ({ coordinator := s.coordinator.finishWork w err env } : RefreshSystem).Ordered M := by
  obtain ⟨k, ho⟩ := h.inHand w hw
  cases err with
  | some err =>
    have hplan := s.coordinator.finishWork_err_retryPlan w err env
    simp only [RefreshCoordinator.retryPlan, Prod.mk.injEq] at hplan
    have hne : (s.coordinator.finishWork w (some err) env).consecutiveFailures ≠ 0 := by
      rw [hplan.2.2.1]
      omega
    have hseq : (s.coordinator.finishWork w (some err) env).sequence = s.coordinator.sequence := by
      simp only [RefreshCoordinator.finishWork]
      simp only [RefreshCoordinator.requeue_eq]
    refine ⟨h.sequence.trans hseq.ge, by simp, ?_, ?_, ?_⟩
    · exact fun _ _ => ⟨_, s.coordinator.finishWork_err_requeued w err env ho⟩
    · rintro (hs | hz)
      · cases hs
      · exact absurd hz hne
    · exact fun _ hz => absurd hz hne
  | none =>
    refine ⟨h.sequence, by simp, fun _ hf => absurd rfl hf, ?_, ?_⟩
    · exact fun _ => h.queued (.inl (by rw [hw]; rfl))
    · -- a stream that is still stale is beyond the batch
      intro _ _ x hx
      obtain ⟨-, hlt, heq⟩ := s.coordinator.stale_finishWork hi.sequenced w env hx
      obtain ⟨n, hn, hle⟩ := ho
      have hbatch := hi.work_entries w hw k n hn
      rw [heq]
      omega

/-- A batch just taken is the first to be compared with. -/
theorem ordered_of_take {now : Time} {w : RefreshWork} {c : RefreshCoordinator} (hi : s.Inv)
    (ht : s.coordinator.takeWorkLocked now = some (w, c)) :
    ({ coordinator := c, work := some w } : RefreshSystem).Ordered w.batch.sequence := by
  have hle := (hi.take ht).work_le w rfl
  obtain ⟨-, hp, hwp, hb, rfl⟩ := takeWorkLocked_some ht
  refine ⟨hle, ?_, by simp, by simp, by simp⟩
  rintro _ ⟨⟩
  obtain ⟨k, hk⟩ := exists_maxSequence hp
  exact ⟨k, _, hwp ▸ hk, hb.le⟩

theorem Ordered.of_reports (h : s.Ordered M) (hi : s.Inv) (hk : KeepsOrder M s e)
    (he : e.op.Reports)
    (hq : s.work.isSome = true ∨ s.coordinator.consecutiveFailures = 0 →
      ∀ k n, (s.step e).coordinator.pending.lookup k = some n →
        s.coordinator.Carried k n ∨ M ≤ n)
    (hst : s.coordinator.StaleFrom (s.step e).coordinator) : (s.step e).Ordered M := by
  obtain ⟨ha, hw⟩ := hi.advances he
  have hf := (RefreshCoordinator.retryPlan_eq
    (RefreshCoordinator.unwritten_retryPlan.step s he)).2.2.1
  exact h.of_call hi hk hw hf ha.sequence hq hst

theorem Ordered.of_carries (h : s.Ordered M) (hi : s.Inv) (hk : KeepsOrder M s e)
    (he : e.op.Reports) (hc : s.coordinator.Carries (s.step e).coordinator)
    (hst : s.coordinator.StaleFrom (s.step e).coordinator) : (s.step e).Ordered M :=
  h.of_reports hi hk he (fun _ k n hn => .inl (hc k n hn)) hst

theorem Ordered.start (h : s.Ordered M) (hi : s.Inv) {hasContext : Bool} {env : CallEnv}
    (hk : KeepsOrder M s ⟨.start hasContext, env⟩) :
    (s.step ⟨.start hasContext, env⟩).Ordered M := by
  cases hc : s.coordinator.start hasContext env with
  | error _ =>
    have hsame : s.step ⟨.start hasContext, env⟩ = s := by simp only [RefreshSystem.step, hc]
    rwa [hsame]
  | ok c =>
    have hstep : s.step ⟨.start hasContext, env⟩ = { s with coordinator := c } := by
      simp only [RefreshSystem.step, hc]
    have hplan := s.retryPlan_step (e := ⟨.start hasContext, env⟩) (by simp)
    refine h.of_call hi hk (by rw [hstep]) (RefreshCoordinator.retryPlan_eq hplan).2.2.1 ?_ ?_ ?_
    all_goals rw [hstep]
    · unfold RefreshCoordinator.start at hc
      split_ifs at hc
      cases hc
      exact Nat.le_succ _
    · exact fun _ k n hn => .inl (s.coordinator.carries_start env hc k n hn)
    · exact .of_streams (RefreshCoordinator.start_streams _ env hc)

/-- What a repeated live report files is no lower: this is asked of it while a batch is in hand, and
after a success a stale stream is beyond every batch so far. -/
theorem Ordered.setStreamLive (h : s.Ordered M) (hi : s.Inv) {y : RefreshStream}
    {live needsFullRefresh : Bool} {env : CallEnv}
    (hk : KeepsOrder M s ⟨.setStreamLive y live needsFullRefresh, env⟩) :
    (s.step ⟨.setStreamLive y live needsFullRefresh, env⟩).Ordered M := by
  refine h.of_reports hi hk trivial ?_
    (s.coordinator.staleFrom_setStreamLive env y live needsFullRefresh)
  intro hphase k n hn
  by_cases hs : s.coordinator.stopped = true
  · change (s.coordinator.setStreamLive y live needsFullRefresh env).pending.lookup k = some n at hn
    rw [RefreshCoordinator.setStreamLive_of_stopped hs] at hn
    exact .inl (.inl ⟨n, hn, le_rfl⟩)
  rcases s.coordinator.lookup_setStreamLive env hi.sequenced y live needsFullRefresh hn with
    hc | ⟨rfl, rfl, hst, hnone, rfl, rfl⟩
  · exact .inl hc
  · cases hw : s.work with
    | none => exact .inr (h.stale hw (hphase.resolve_left (by simp [hw])) y hst)
    | some w =>
      have hflight : s.coordinator.inFlight = true := by rw [hi.inFlight, hw]; rfl
      rcases hk.repeats y ⟨by simpa using hs, rfl, hst⟩ hflight with hle | ⟨m, hm, -⟩
      · exact .inr hle
      · rw [hnone] at hm
        cases hm

theorem Ordered.step (h : s.Ordered M) (hi : s.Inv) (hk : KeepsOrder M s e) :
    (s.step e).Ordered M := by
  rcases e with ⟨op, env⟩
  cases op with
  | start hasContext => exact h.start hi hk
  | stop => exact ⟨h.sequence, h.inHand, h.failed, h.queued, h.stale⟩
  | notify reason =>
    exact h.of_carries hi hk trivial (s.coordinator.carries_notify env reason)
      (.of_streams (s.coordinator.notify_streams env reason))
  | setPaused paused =>
    exact h.of_carries hi hk trivial (s.coordinator.carries_setPaused env paused)
      (.of_streams (s.coordinator.setPaused_streams env paused))
  | setStreamCovered y covered =>
    exact h.of_carries hi hk trivial (s.coordinator.carries_setStreamCovered env y covered)
      (s.coordinator.staleFrom_setStreamCovered env y covered)
  | setStreamLive y live needsFullRefresh => exact h.setStreamLive hi hk
  | invalidateStream y reason =>
    exact h.of_carries hi hk trivial (s.coordinator.carries_invalidateStream env y reason)
      (s.coordinator.staleFrom_invalidateStream env y reason)
  | handleTimer =>
    exact h.of_carries hi hk trivial (s.coordinator.carries_handleTimer env)
      (.of_streams (s.coordinator.handleTimer_streams env))
  | takeWork =>
    unfold RefreshSystem.step
    dsimp only
    cases ht : s.coordinator.takeWorkLocked env.now with
    | none => exact h
    | some p => exact (h.take hi ht).1
  | finishWork err =>
    unfold RefreshSystem.step
    dsimp only
    cases hw : s.work with
    | none => exact h
    | some w => exact h.finish hi hw err env
  | exit =>
    unfold RefreshSystem.step
    dsimp only
    split_ifs
    · exact ⟨h.sequence, h.inHand, h.failed, h.queued, h.stale⟩
    · exact h

/-- A batch of the sequence has been taken before the position of the run. -/
def TakenBefore (s : RefreshSystem) (es : List RefreshEvent) (l M : Nat) : Prop :=
  ∃ i < l, ∃ w, EventAt step s es i (fun s e => s.Takes e w) ∧ w.batch.sequence = M

/-- Batch sequences never go back along a run that, between a failure and its retry, does not delete
the only queue entry as high as a batch so far, and files no lower repair while a batch is in hand. -/
theorem batch_sequence_mono {cfg : RefreshCoordinatorConfig} {c : RefreshCoordinator}
    (hc : newRefreshCoordinator cfg = .ok c) {es : List RefreshEvent}
    (hk : ∀ l e M, es[l]? = some e → TakenBefore { coordinator := c } es l M →
      KeepsOrder M (stateAt step { coordinator := c } es l) e) {i j : Nat} (hij : i < j)
    {w w' : RefreshWork} (hi : EventAt step { coordinator := c } es i (fun s e => s.Takes e w))
    (hj : EventAt step { coordinator := c } es j (fun s e => s.Takes e w')) :
    w.batch.sequence ≤ w'.batch.sequence := by
  have hinv (m : Nat) := stateAt_invariant (Inv.init (newRefreshCoordinator_fresh hc))
    (fun _ e h => Inv.step h e) es m
  have hordered : (stateAt step { coordinator := c } es j).Ordered w.batch.sequence := by
    refine stateAt_from (P := fun _ (s : RefreshSystem) => s.Ordered w.batch.sequence) hij ?_
      (fun _ _ h => h) ?_
    · obtain ⟨e, he, hop, c', ht⟩ := hi
      rw [stateAt_succ _ _ _ _ he]
      simp only [RefreshSystem.step, hop, ht]
      exact ordered_of_take (hinv i) ht
    · intro l e hil _ he ho
      exact ho.step (hinv l) (hk l e _ he ⟨i, hil, w, hi, rfl⟩)
  obtain ⟨e, -, -, c', ht⟩ := hj
  exact (hordered.take (hinv j) ht).2

/-- A failed batch whose highest entry a progress gap deletes before the retry. -/
def gapAfterFailure : List RefreshEvent :=
  [⟨.start true, { now := second }⟩,
    ⟨.setStreamCovered refreshStreamTopology true, { now := second }⟩,
    ⟨.setStreamLive refreshStreamTopology true false, { now := second }⟩,
    ⟨.takeWork, { now := second }⟩,
    ⟨.finishWork (some ⟨"refresh failed", none⟩), { now := 2 * second }⟩,
    ⟨.setStreamLive refreshStreamTopology false true, { now := 2 * second }⟩,
    ⟨.takeWork, { now := 3 * second }⟩]

theorem batch_sequence_gapAfterFailure :
    ∃ w w', EventAt step { coordinator := defaultCoordinator } gapAfterFailure 3
        (fun s e => s.Takes e w) ∧
      EventAt step { coordinator := defaultCoordinator } gapAfterFailure 6
        (fun s e => s.Takes e w') ∧
      w.batch.sequence = 3 ∧ w'.batch.sequence = 1 := by
  refine ⟨_, _, ⟨_, rfl, rfl, _, rfl⟩, ⟨_, rfl, rfl, _, rfl⟩, ?_, ?_⟩
  · decide
  · decide

/-- The live report comes again while the batch is in hand, and an endpoint change is queued before
the gap. -/
def gapBesideNotify : List RefreshEvent :=
  [⟨.start true, { now := second }⟩,
    ⟨.setStreamCovered refreshStreamTopology true, { now := second }⟩,
    ⟨.setStreamLive refreshStreamTopology true false, { now := second }⟩,
    ⟨.takeWork, { now := second }⟩,
    ⟨.setStreamLive refreshStreamTopology true false, { now := second }⟩,
    ⟨.finishWork (some ⟨"refresh failed", none⟩), { now := 2 * second }⟩,
    ⟨.notify refreshReasonEndpoint, { now := 2 * second }⟩,
    ⟨.setStreamLive refreshStreamTopology false true, { now := 2 * second }⟩,
    ⟨.takeWork, { now := 4 * second }⟩]

theorem takenBefore_gapBesideNotify {l M : Nat} (hl : l ≤ 8)
    (h : TakenBefore { coordinator := defaultCoordinator } gapBesideNotify l M) : M = 3 := by
  obtain ⟨i, hi, w, ⟨e, he, hop, c', ht⟩, rfl⟩ := h
  match i, he, ht with
  | 3, rfl, ht =>
    have hsequence := congrArg (Option.map (·.1.batch.sequence)) ht
    exact (Option.some.inj ((by decide : some 3 = _).trans hsequence)).symm
  | 0, rfl, _ | 1, rfl, _ | 2, rfl, _ | 4, rfl, _ | 5, rfl, _ | 6, rfl, _ | 7, rfl, _ => cases hop
  | _ + 8, _, _ => omega

theorem keepsOrder_gapBesideNotify (l : Nat) (e : RefreshEvent) (M : Nat)
    (he : gapBesideNotify[l]? = some e)
    (h : TakenBefore { coordinator := defaultCoordinator } gapBesideNotify l M) :
    KeepsOrder M (stateAt step { coordinator := defaultCoordinator } gapBesideNotify l) e := by
  have hl : l ≤ 8 := Nat.le_of_lt_succ (lt_length_of_getElem? he)
  obtain rfl := takenBefore_gapBesideNotify hl h
  refine ⟨fun k hd _ => ?_, fun y hr hflight => ?_⟩
  · match l, he with
    | 7, rfl =>
      obtain rfl := hd.2.1
      exact .inr (.inr ⟨refreshReasonEndpoint, by decide, _, rfl, by decide⟩)
    | 1, rfl => cases hd.2.2.2
    | 2, rfl | 4, rfl => cases hd.2.2.1
    | 0, rfl | 3, rfl | 5, rfl | 6, rfl | 8, rfl => exact hd.2.elim
  · match l, he with
    | 4, rfl =>
      obtain ⟨rfl, -⟩ := RefreshOp.setStreamLive.inj hr.2.1
      exact .inl (by decide)
    | 2, rfl => cases hflight
    | 0, rfl | 1, rfl | 3, rfl | 5, rfl | 6, rfl | 7, rfl | 8, rfl => cases hr.2.1

theorem batch_sequence_mono_gapBesideNotify :
    ∃ w w', EventAt step { coordinator := defaultCoordinator } gapBesideNotify 3
        (fun s e => s.Takes e w) ∧
      EventAt step { coordinator := defaultCoordinator } gapBesideNotify 8
        (fun s e => s.Takes e w') ∧
      w.batch.sequence ≤ w'.batch.sequence := by
  have hfirst : ∃ w, EventAt step { coordinator := defaultCoordinator } gapBesideNotify 3
      (fun s e => s.Takes e w) := ⟨_, _, rfl, rfl, _, rfl⟩
  have hsecond : ∃ w, EventAt step { coordinator := defaultCoordinator } gapBesideNotify 8
      (fun s e => s.Takes e w) := ⟨_, _, rfl, rfl, _, rfl⟩
  obtain ⟨w, hw⟩ := hfirst
  obtain ⟨w', hw'⟩ := hsecond
  exact ⟨w, w', hw, hw', batch_sequence_mono newRefreshCoordinator_default
    keepsOrder_gapBesideNotify (by decide) hw hw'⟩

end RefreshSystem

end Meshd.Engine

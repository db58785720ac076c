import Meshd.Engine.Refresh.Scheduled
import Mathlib.Algebra.Order.Ring.Int
import Mathlib.Tactic.Ring

namespace Meshd.Engine

open Meshd.Framework

section Backoff

/-- The loop of `exponentialBackoff` on the 64-bit integers it runs on. -/
def backoffLoop64 (maximum : Int64) : Nat → Int64 → Int64
  | 0, delay => if delay > maximum then maximum else delay
  | n + 1, delay =>
    if delay ≥ maximum ∨ delay > maximum / 2 then maximum else backoffLoop64 maximum n (delay * 2)

def exponentialBackoff64 (base maximum : Int64) (failures : Nat) : Int64 :=
  if failures ≤ 1 then base else backoffLoop64 maximum (failures - 1) base

theorem le_mul_two_pow {a : Int} (ha : 0 ≤ a) (n : Nat) : a ≤ a * 2 ^ n := by
  have hp : (1 : Int) ≤ 2 ^ n := one_le_pow₀ (by decide)
  calc
    a = a * 1 := (mul_one a).symm
    _ ≤ a * 2 ^ n := Int.mul_le_mul_of_nonneg_left hp ha

/-- The early return comes one round before the product would pass the maximum. -/
theorem backoffLoop_eq {maximum delay : Int} (hd : 0 < delay) (hm : delay ≤ maximum)
    (n : Nat) : backoffLoop maximum n delay = min maximum (delay * 2 ^ n) := by
  induction n generalizing delay with
  | zero =>
    simp only [backoffLoop]
    rw [if_neg (not_lt.mpr hm), pow_zero, mul_one, min_eq_right hm]
  | succ n ih =>
    have hhalf : maximum.tdiv 2 = maximum / 2 := Int.tdiv_eq_ediv_of_nonneg (by omega)
    have hstep : delay * 2 ^ (n + 1) = delay * 2 * 2 ^ n := by ring
    simp only [backoffLoop]
    rw [hhalf, hstep]
    split_ifs with hstop
    · have htwo : maximum ≤ delay * 2 := by
        rcases hstop with hge | hgt
        · exact le_trans hge (by omega)
        · have hle : maximum / 2 + 1 ≤ delay := hgt
          omega
      exact (min_eq_left (htwo.trans (le_mul_two_pow (by omega) n))).symm
    · have hle : delay ≤ maximum / 2 := not_lt.mp (fun h => hstop (.inr h))
      exact ih (by omega) (by omega)

theorem exponentialBackoff_eq {base maximum : Duration} (hb : 0 < base) (hm : base ≤ maximum)
    (failures : Nat) :
    exponentialBackoff base maximum failures = min maximum (base * 2 ^ (failures - 1)) := by
  simp only [exponentialBackoff]
  split_ifs with hf
  · rw [Nat.sub_eq_zero_of_le hf, pow_zero, mul_one, min_eq_right hm]
  · exact backoffLoop_eq hb hm _

theorem toInt_half (maximum : Int64) : (maximum / 2).toInt = maximum.toInt.tdiv 2 :=
  Int64.toInt_div_of_ne_right maximum 2 (by decide)

/-- A delay is doubled only at or below half of the maximum, so the product fits. -/
theorem toInt_double {maximum delay : Int64} (hd : 0 < delay.toInt) (hm : 0 < maximum.toInt)
    (hh : delay.toInt ≤ maximum.toInt.tdiv 2) : (delay * 2).toInt = delay.toInt * 2 := by
  have htwo : (2 : Int64).toInt = 2 := by decide
  have hmax := maximum.toInt_lt
  have hhalf : maximum.toInt.tdiv 2 = maximum.toInt / 2 := Int.tdiv_eq_ediv_of_nonneg hm.le
  rw [Int64.toInt_mul, htwo]
  exact Int.bmod_eq_of_le (by omega) (by omega)

theorem toInt_backoffLoop64 {maximum delay : Int64} (hd : 0 < delay.toInt)
    (hm : 0 < maximum.toInt) (n : Nat) :
    (backoffLoop64 maximum n delay).toInt = backoffLoop maximum.toInt n delay.toInt := by
  induction n generalizing delay with
  | zero =>
    simp only [backoffLoop64, backoffLoop, gt_iff_lt, Int64.lt_iff_toInt_lt]
    split_ifs <;> rfl
  | succ n ih =>
    simp only [backoffLoop64, backoffLoop, gt_iff_lt, ge_iff_le, Int64.lt_iff_toInt_lt,
      Int64.le_iff_toInt_le, toInt_half]
    split_ifs with hstop
    · rfl
    · have hdouble : (delay * 2).toInt = delay.toInt * 2 :=
        toInt_double hd hm (by omega)
      rw [ih (by omega), hdouble]

/-- The 64-bit function and the one on integers agree, so nothing wraps. -/
theorem toInt_exponentialBackoff64 {base maximum : Int64} (hb : 0 < base.toInt)
    (hm : 0 < maximum.toInt) (failures : Nat) : (exponentialBackoff64 base maximum failures).toInt =
      exponentialBackoff base.toInt maximum.toInt failures := by
  simp only [exponentialBackoff64, exponentialBackoff]
  split_ifs
  · rfl
  · exact toInt_backoffLoop64 hb hm _

/-- `rand.Int64N(n)` for a positive `n`: a value of `[0, n)`, picked by the draw. -/
def int64N (draw : Nat) (n : Int64) : Int64 := Int64.ofInt (draw % n.toInt)

def defaultRefreshRetryJitter (draw : Nat) (delay : Int64) : Int64 :=
  if delay ≤ 0 then delay else
  let span := delay / 5
  if span ≤ 0 then delay else
  let extra := int64N draw (span + 1)
  if delay > Int64.maxValue - extra then Int64.maxValue else delay + extra

theorem toInt_int64N (draw : Nat) {n : Int64} (hn : 0 < n.toInt) :
    0 ≤ (int64N draw n).toInt ∧ (int64N draw n).toInt < n.toInt := by
  have hlo : 0 ≤ (draw : Int) % n.toInt := Int.emod_nonneg _ (by omega)
  have hhi : (draw : Int) % n.toInt < n.toInt := Int.emod_lt_of_pos _ hn
  have hmax := n.toInt_lt
  have heq : (int64N draw n).toInt = draw % n.toInt :=
    Int64.toInt_ofInt_of_le (by omega) (by omega)
  rw [heq]
  exact ⟨hlo, hhi⟩

/-- A fifth of a positive delay and one more: the bound of the draw does not wrap. -/
theorem toInt_span {delay : Int64} (hd : 0 < delay.toInt) :
    (delay / 5 + 1).toInt = delay.toInt / 5 + 1 := by
  have hmax := delay.toInt_lt
  have hone : (1 : Int64).toInt = 1 := by decide
  have hspan : (delay / 5).toInt = delay.toInt.tdiv 5 :=
    Int64.toInt_div_of_ne_right delay 5 (by decide)
  rw [Int64.toInt_add, hspan, hone, Int.tdiv_eq_ediv_of_nonneg hd.le]
  exact Int.bmod_eq_of_le (by omega) (by omega)

/-- Adding below the test against the largest duration gives the saturated sum. -/
theorem toInt_saturatingAdd {delay extra : Int64} (hd : 0 < delay.toInt) (he : 0 ≤ extra.toInt) :
    (if delay > Int64.maxValue - extra then Int64.maxValue else delay + extra).toInt =
      min (2 ^ 63 - 1) (delay.toInt + extra.toInt) := by
  have hmax : Int64.maxValue.toInt = 2 ^ 63 - 1 := Int64.toInt_maxValue
  have hroom : (Int64.maxValue - extra).toInt = 2 ^ 63 - 1 - extra.toInt := by
    have hlt := extra.toInt_lt
    rw [Int64.toInt_sub, hmax]
    exact Int.bmod_eq_of_le (by omega) (by omega)
  split_ifs with hbig
  · rw [gt_iff_lt, Int64.lt_iff_toInt_lt, hroom] at hbig
    rw [hmax]
    omega
  · rw [gt_iff_lt, Int64.lt_iff_toInt_lt, hroom] at hbig
    have hsum : (delay + extra).toInt = delay.toInt + extra.toInt := by
      rw [Int64.toInt_add]
      exact Int.bmod_eq_of_le (by omega) (by omega)
    omega

/-- The default retry jitter adds up to a fifth of the delay and saturates instead of wrapping. -/
theorem defaultRefreshRetryJitter_eq (draw : Nat) (delay : Int64) :
    ∃ extra : Int, 0 ≤ extra ∧ 5 * extra ≤ max delay.toInt 0 ∧
      (defaultRefreshRetryJitter draw delay).toInt = min (2 ^ 63 - 1) (delay.toInt + extra) := by
  have hmax := delay.toInt_lt
  have hsame : delay.toInt = min (2 ^ 63 - 1) (delay.toInt + 0) := by omega
  have hzero : (0 : Int64).toInt = 0 := by decide
  unfold defaultRefreshRetryJitter
  dsimp only
  by_cases hneg : delay ≤ 0
  · rw [if_pos hneg]
    exact ⟨0, le_rfl, by omega, hsame⟩
  rw [if_neg hneg]
  by_cases hsmall : delay / 5 ≤ 0
  · rw [if_pos hsmall]
    exact ⟨0, le_rfl, by omega, hsame⟩
  rw [if_neg hsmall]
  have hpos : 0 < delay.toInt := by
    rw [Int64.le_iff_toInt_le, hzero] at hneg
    omega
  have hspan := toInt_span hpos
  obtain ⟨hlo, hhi⟩ := toInt_int64N draw (n := delay / 5 + 1) (by omega)
  exact ⟨_, hlo, by omega, toInt_saturatingAdd hpos hlo⟩

end Backoff

namespace RefreshCoordinator

/-- What decides when a retry may run. -/
def retryPlan (c : RefreshCoordinator) : Duration × Duration × Nat × Time :=
  (c.retryBackoff, c.maxRetryBackoff, c.consecutiveFailures, c.retryNotBefore)

theorem unwritten_retryPlan : Unwritten retryPlan :=
  ⟨fun _ _ _ => rfl, fun _ _ => rfl, fun _ _ => rfl, fun _ _ _ => rfl, fun _ _ => rfl⟩

theorem retryPlan_eq {c c' : RefreshCoordinator} (h : c'.retryPlan = c.retryPlan) :
    c'.retryBackoff = c.retryBackoff ∧ c'.maxRetryBackoff = c.maxRetryBackoff ∧
    c'.consecutiveFailures = c.consecutiveFailures ∧ c'.retryNotBefore = c.retryNotBefore := by
  simpa [retryPlan, Prod.ext_iff] using h

theorem finishWork_err_retryPlan (c : RefreshCoordinator) (w : RefreshWork) (err : RefreshError)
    (env : CallEnv) : (c.finishWork w (some err) env).retryPlan =
      (c.retryBackoff, c.maxRetryBackoff, c.consecutiveFailures + 1,
        env.now + { c with consecutiveFailures := c.consecutiveFailures + 1 }.retryDelay err
          env.retryJitter) := by
  simp only [finishWork]
  simp only [requeue_eq]
  rfl

/-- The delay that has to pass after the `f`-th failure in a row. -/
def retryFloor (c : RefreshCoordinator) (f : Nat) (err : RefreshError) : Duration :=
  max (min c.maxRetryBackoff (c.retryBackoff * 2 ^ (f - 1))) (err.retryAfter.getD 0)

/-- Whatever the jitter answers, the delay is at least the floor. -/
theorem retryFloor_le_retryDelay {c : RefreshCoordinator} (hpos : 0 < c.retryBackoff)
    (hmax : c.retryBackoff ≤ c.maxRetryBackoff) (err : RefreshError)
    (retryJitter : Duration → Duration) :
    c.retryFloor c.consecutiveFailures err ≤ c.retryDelay err retryJitter := by
  have hb := exponentialBackoff_eq hpos hmax c.consecutiveFailures
  have hnonneg : 0 ≤ min c.maxRetryBackoff
      (c.retryBackoff * 2 ^ (c.consecutiveFailures - 1)) := by
    have hm := le_mul_two_pow hpos.le (c.consecutiveFailures - 1)
    exact le_min (hpos.le.trans hmax) (hpos.le.trans hm)
  unfold retryFloor retryDelay
  rw [hb]
  cases err.retryAfter with
  | none =>
    dsimp only [Option.getD]
    split_ifs <;> lia
  | some retryAfter =>
    dsimp only [Option.getD]
    split_ifs <;> lia

end RefreshCoordinator

theorem newRefreshCoordinator_retry {cfg : RefreshCoordinatorConfig} {c : RefreshCoordinator}
    (h : newRefreshCoordinator cfg = .ok c) :
    0 < c.retryBackoff ∧ c.retryBackoff ≤ c.maxRetryBackoff ∧ c.consecutiveFailures = 0 := by
  obtain ⟨_, _, _, _, _, rfl, hpos, hmax, -⟩ := newRefreshCoordinator_ok h
  exact ⟨hpos, hmax, rfl⟩

namespace RefreshSystem

variable {s : RefreshSystem} {e : RefreshEvent}

/-- The event finishes the work in hand with an error. -/
def Fails (s : RefreshSystem) (e : RefreshEvent) (err : RefreshError) : Prop :=
  e.op = .finishWork (some err) ∧ s.work.isSome = true

/-- Failures in a row, with those before the event given. -/
def nextFailures (s : RefreshSystem) (e : RefreshEvent) (failures : Nat) : Nat :=
  match e.op, s.work with
  | .finishWork (some _), some _ => failures + 1
  | .finishWork none, some _ => 0
  | _, _ => failures

/-- The refreshes that failed in a row among the first `k` events of a run. -/
def failuresInARow (s₀ : RefreshSystem) (es : List RefreshEvent) : Nat → Nat
  | 0 => 0
  | k + 1 =>
    match es[k]? with
    | some e => nextFailures (stateAt step s₀ es k) e (failuresInARow s₀ es k)
    | none => failuresInARow s₀ es k

/-- Only the end of a refresh changes the retry plan. -/
theorem retryPlan_step (s : RefreshSystem) (h : ∀ err, e.op ≠ .finishWork err) :
    (s.step e).coordinator.retryPlan = s.coordinator.retryPlan := by
  rcases e with ⟨op, env⟩
  cases op with
  | start hasContext =>
    unfold RefreshSystem.step RefreshCoordinator.start
    dsimp only
    split_ifs <;> rfl
  | stop => rfl
  | takeWork =>
    obtain hsame | htaken := s.step_takeWork env
    · rw [hsame]
    · rw [htaken]
      rfl
  | finishWork err => exact absurd rfl (h err)
  | exit =>
    unfold RefreshSystem.step
    dsimp only
    split_ifs <;> rfl
  | _ =>
    refine RefreshCoordinator.unwritten_retryPlan.step s ?_
    trivial

theorem retryBackoff_step (s : RefreshSystem) (e : RefreshEvent) :
    (s.step e).coordinator.retryBackoff = s.coordinator.retryBackoff ∧
    (s.step e).coordinator.maxRetryBackoff = s.coordinator.maxRetryBackoff ∧
    (s.step e).coordinator.consecutiveFailures =
      s.nextFailures e s.coordinator.consecutiveFailures := by
  by_cases hfin : ∃ err, e.op = .finishWork err
  · obtain ⟨err, herr⟩ := hfin
    simp only [RefreshSystem.step, nextFailures, herr]
    cases hw : s.work with
    | none =>
      cases err <;> exact ⟨rfl, rfl, rfl⟩
    | some w =>
      cases err with
      | none => exact ⟨rfl, rfl, rfl⟩
      | some err =>
        have hplan := s.coordinator.finishWork_err_retryPlan w err e.env
        simp only [RefreshCoordinator.retryPlan, Prod.mk.injEq] at hplan
        exact ⟨hplan.1, hplan.2.1, hplan.2.2.1⟩
  · have hne : ∀ err, e.op ≠ .finishWork err := fun err herr => hfin ⟨err, herr⟩
    obtain ⟨hb, hm, hf, -⟩ := RefreshCoordinator.retryPlan_eq (s.retryPlan_step hne)
    refine ⟨hb, hm, hf.trans ?_⟩
    unfold nextFailures
    split
    · exact absurd ‹_› (hne _)
    · exact absurd ‹_› (hne _)
    · rfl

/-- A batch is taken no earlier than the two times that hold it back. -/
theorem takeWorkLocked_time {c c' : RefreshCoordinator} {now : Time} {w : RefreshWork}
    (h : c.takeWorkLocked now = some (w, c')) :
    c.retryNotBefore ≤ now ∧ c.debounceNotBefore ≤ now := by
  simp only [RefreshCoordinator.takeWorkLocked] at h
  split_ifs at h with hn
  simp only [Bool.or_eq_true, decide_eq_true_eq, not_or, not_lt] at hn
  exact ⟨hn.1.2, hn.2⟩

/-- As long as no batch is taken, the retry time of an idle worker stays. -/
theorem retryNotBefore_step (hi : s.Inv) (hw : s.work = none) (e : RefreshEvent) :
    (∃ w, s.Takes e w) ∨
    (s.step e).work = none ∧
      (s.step e).coordinator.retryNotBefore = s.coordinator.retryNotBefore := by
  by_cases hfin : ∃ err, e.op = .finishWork err
  · obtain ⟨err, herr⟩ := hfin
    have hsame : s.step e = s := by simp only [RefreshSystem.step, herr, hw]
    rw [hsame]
    exact .inr ⟨hw, rfl⟩
  · have hne : ∀ err, e.op ≠ .finishWork err := fun err herr => hfin ⟨err, herr⟩
    obtain ⟨-, -, -, hr⟩ := RefreshCoordinator.retryPlan_eq (s.retryPlan_step hne)
    rcases work_step hi e with ⟨w, ht, -⟩ | hsame | ⟨herr, -⟩
    · exact .inl ⟨w, ht⟩
    · exact .inr ⟨hsame.trans hw, hr⟩
    · exact absurd herr hfin

section Run
variable {cfg : RefreshCoordinatorConfig} {c : RefreshCoordinator} {es : List RefreshEvent}

/-- Along a run the bounds of the backoff stay, and the counter counts the failures in a row. -/
theorem retry_stateAt (hc : newRefreshCoordinator cfg = .ok c) (es : List RefreshEvent)
    (k : Nat) :
    (stateAt step { coordinator := c } es k).coordinator.retryBackoff = c.retryBackoff ∧
    (stateAt step { coordinator := c } es k).coordinator.maxRetryBackoff = c.maxRetryBackoff ∧
    (stateAt step { coordinator := c } es k).coordinator.consecutiveFailures =
      failuresInARow { coordinator := c } es k := by
  induction k with
  | zero => exact ⟨rfl, rfl, (newRefreshCoordinator_retry hc).2.2⟩
  | succ k ih =>
    obtain ⟨hb, hm, hf⟩ := ih
    simp only [failuresInARow]
    cases he : es[k]? with
    | none =>
      rw [stateAt_succ_of_none _ _ _ he]
      exact ⟨hb, hm, hf⟩
    | some e =>
      rw [stateAt_succ _ _ _ _ he]
      obtain ⟨hb', hm', hf'⟩ := retryBackoff_step (stateAt step { coordinator := c } es k) e
      exact ⟨hb'.trans hb, hm'.trans hm, by rw [hf', hf]⟩

/-- The failed finish empties the worker's hand and sets a retry time at or after the floor. -/
theorem retryNotBefore_of_fails (hc : newRefreshCoordinator cfg = .ok c) {i : Nat}
    {e : RefreshEvent} {err : RefreshError} (he : es[i]? = some e)
    (hf : (stateAt step { coordinator := c } es i).Fails e err) :
    (stateAt step { coordinator := c } es (i + 1)).work = none ∧
    e.env.now + c.retryFloor (failuresInARow { coordinator := c } es (i + 1)) err ≤
      (stateAt step { coordinator := c } es (i + 1)).coordinator.retryNotBefore := by
  obtain ⟨hop, hw⟩ := hf
  obtain ⟨w, hw⟩ := Option.isSome_iff_exists.mp hw
  obtain ⟨hpos, hmax, -⟩ := newRefreshCoordinator_retry hc
  obtain ⟨hb, hm, hn⟩ := retry_stateAt hc es i
  have hcount := (retry_stateAt hc es (i + 1)).2.2
  rw [stateAt_succ _ _ _ _ he] at hcount ⊢
  rw [← hcount]
  generalize stateAt step { coordinator := c } es i = s at *
  have hstep : s.step e = { coordinator := s.coordinator.finishWork w (some err) e.env } := by
    simp only [RefreshSystem.step, hop, hw]
  have hplan := s.coordinator.finishWork_err_retryPlan w err e.env
  simp only [RefreshCoordinator.retryPlan, Prod.mk.injEq] at hplan
  rw [hstep]
  refine ⟨rfl, ?_⟩
  dsimp only
  rw [hplan.2.2.1, hplan.2.2.2]
  have hle := RefreshCoordinator.retryFloor_le_retryDelay
    (c := { s.coordinator with consecutiveFailures := s.coordinator.consecutiveFailures + 1 })
    (hb ▸ hpos) (hb ▸ hm ▸ hmax) err e.env.retryJitter
  simp only [RefreshCoordinator.retryFloor] at hle ⊢
  rw [← hb, ← hm]
  exact Int.add_le_add_left hle _

/-- Until a batch is taken at or after a time, an idle worker keeps waiting for it. -/
theorem waits_until (hc : newRefreshCoordinator cfg = .ok c) {t : Time} {i m : Nat} (him : i ≤ m)
    (hw : (stateAt step { coordinator := c } es i).work = none)
    (ht : t ≤ (stateAt step { coordinator := c } es i).coordinator.retryNotBefore) :
    (∃ k e, i ≤ k ∧ k < m ∧ es[k]? = some e ∧ e.op = .takeWork ∧ t ≤ e.env.now) ∨
    (stateAt step { coordinator := c } es m).work = none ∧
      t ≤ (stateAt step { coordinator := c } es m).coordinator.retryNotBefore := by
  refine stateAt_from (P := fun m (s : RefreshSystem) =>
    (∃ k e, i ≤ k ∧ k < m ∧ es[k]? = some e ∧ e.op = .takeWork ∧ t ≤ e.env.now) ∨
      s.work = none ∧ t ≤ s.coordinator.retryNotBefore) him (.inr ⟨hw, ht⟩) ?_ ?_
  · exact fun m s h => h.imp_left (fun ⟨k, e, hik, hk, he⟩ => ⟨k, e, hik, by omega, he⟩)
  · rintro l e hil - he (⟨k, f, hik, hk, hf⟩ | ⟨hw, ht⟩)
    · exact .inl ⟨k, f, hik, by omega, hf⟩
    · have hi := stateAt_invariant (Inv.init (newRefreshCoordinator_fresh hc))
        (fun _ e h => Inv.step h e) es l
      rcases retryNotBefore_step hi hw e with ⟨w, hop, c', htake⟩ | ⟨hw', hr⟩
      · exact .inl ⟨l, e, hil, by omega, he, hop, ht.trans (takeWorkLocked_time htake).1⟩
      · exact .inr ⟨hw', ht.trans hr.ge⟩

/-- The retry floor. After the `f`-th failure in a row at time `t` no batch is taken before `t` and
the longer of the capped exponential backoff and the server's Retry-After, whatever is called in
between and whatever the jitter answers, if the clock does not go back from one look for work to the
next. The backoff is exact on 64-bit durations, and the default
jitter neither shortens a delay nor wraps. -/
theorem batch_not_before_retryFloor (hc : newRefreshCoordinator cfg = .ok c) :
    (∀ i j e f err w, i < j → es[i]? = some e → es[j]? = some f →
      (∀ k g, i < k → k < j → es[k]? = some g → g.op = .takeWork → g.env.now ≤ f.env.now) →
      (stateAt step { coordinator := c } es i).Fails e err →
      (stateAt step { coordinator := c } es j).Takes f w →
      e.env.now + max (min c.maxRetryBackoff
          (c.retryBackoff * 2 ^ (failuresInARow { coordinator := c } es (i + 1) - 1)))
        (err.retryAfter.getD 0) ≤ f.env.now) ∧
    (∀ base maximum : Int64, 0 < base → base ≤ maximum → ∀ failures,
      (exponentialBackoff64 base maximum failures).toInt =
        min maximum.toInt (base.toInt * 2 ^ (failures - 1)) ∧
      exponentialBackoff base.toInt maximum.toInt failures =
        min maximum.toInt (base.toInt * 2 ^ (failures - 1))) ∧
    (∀ draw delay, delay ≤ defaultRefreshRetryJitter draw delay ∧
      ∃ extra : Int, 0 ≤ extra ∧ 5 * extra ≤ max delay.toInt 0 ∧
        (defaultRefreshRetryJitter draw delay).toInt =
          min (2 ^ 63 - 1) (delay.toInt + extra)) := by
  have hzero : (0 : Int64).toInt = 0 := by decide
  refine ⟨?_, ?_, ?_⟩
  · intro i j e f err w hij he hf hclock hfails htakes
    obtain ⟨hwork, hfloor⟩ := retryNotBefore_of_fails hc he hfails
    rcases waits_until hc (Nat.succ_le_of_lt hij) hwork hfloor with
      ⟨k, g, hik, hk, hg, hop, hle⟩ | ⟨-, hle⟩
    · exact hle.trans (hclock k g hik hk hg hop)
    · obtain ⟨-, c', htake⟩ := htakes
      exact hle.trans (takeWorkLocked_time htake).1
  · intro base maximum hb hm failures
    rw [Int64.lt_iff_toInt_lt, hzero] at hb
    rw [Int64.le_iff_toInt_le] at hm
    have heq := exponentialBackoff_eq hb hm failures
    exact ⟨(toInt_exponentialBackoff64 hb (by omega) failures).trans heq, heq⟩
  · intro draw delay
    obtain ⟨extra, hextra, hfifth, heq⟩ := defaultRefreshRetryJitter_eq draw delay
    have hmax := delay.toInt_lt
    exact ⟨Int64.le_iff_toInt_le.mpr (by omega), extra, hextra, hfifth, heq⟩

/-- A rate-limited refresh, calls that queue work meanwhile, a look for work that comes too early, and
the retry. -/
def rateLimited : List RefreshEvent :=
  [⟨.start true, { now := second }⟩, ⟨.takeWork, { now := second }⟩,
    ⟨.finishWork (some ⟨"rate limited", some (90 * second)⟩), { now := 2 * second }⟩,
    ⟨.notify refreshReasonEndpoint, { now := 3 * second }⟩,
    ⟨.setPaused true, { now := 4 * second }⟩, ⟨.setPaused false, { now := 5 * second }⟩,
    ⟨.takeWork, { now := 6 * second }⟩, ⟨.takeWork, { now := 92 * second }⟩]

theorem batch_not_before_retryFloor_rateLimited :
    ∃ w, (stateAt step { coordinator := defaultCoordinator } rateLimited 7).Takes
      ⟨.takeWork, { now := 92 * second }⟩ w ∧
    2 * second + max (min (30 * second) (second * 2 ^ (1 - 1))) (90 * second) ≤ 92 * second := by
  have htakes : ∃ w, (stateAt step { coordinator := defaultCoordinator } rateLimited 7).Takes
      ⟨.takeWork, { now := 92 * second }⟩ w := ⟨_, rfl, _, rfl⟩
  obtain ⟨w, hw⟩ := htakes
  have hclock : ∀ g ∈ rateLimited, g.env.now ≤ 92 * second := by decide
  exact ⟨w, hw, (batch_not_before_retryFloor newRefreshCoordinator_default).1 2 7 _ _
    ⟨"rate limited", some (90 * second)⟩ w (by decide) rfl rfl
    (fun _ g _ _ hg _ => hclock g (List.mem_of_getElem? hg)) ⟨rfl, rfl⟩ hw⟩

end Run

end RefreshSystem

end Meshd.Engine

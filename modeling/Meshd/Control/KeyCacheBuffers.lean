import Meshd.Control.KeyCache
import Meshd.Framework.Ownership

namespace Meshd.Control.KeyCache

open Meshd.Framework

/-! Every buffer of the cache has one owner: the cache itself, a loader, or a caller that has
returned. -/

inductive Owner
  | cached (key : AudienceKeyCacheKey)
  | loader (i : Nat)
  | copy (i : Nat)
deriving DecidableEq

/-- The buffer that a load returned, until it is zeroed. -/
def Pc.privateKey : Pc → Option Nat
  | .loaded _ privateKey _ => some privateKey
  | .stored privateKey _ => some privateKey
  | _ => none

/-- The buffer that a caller got. -/
def Pc.copy : Pc → Option Nat
  | .returned (.ok result) => some result
  | _ => none

def State.owned (s : State) : Owner → Option Nat
  | .cached key => s.keys key
  | .loader i => (s.callers i).pc.privateKey
  | .copy i => (s.callers i).pc.copy

/-- Whose step an event is. -/
def Event.caller : Event → Nat
  | .call i _ | .cancel i _ | .lock i | .ctxDone i | .done i | .load i _ | .store i | .finish i
  | .clearCopy i => i

/-- The owner whose buffer an event zeroes. -/
def Event.zeroes : Event → Option Owner
  | .finish i => some (.loader i)
  | .clearCopy i => some (.copy i)
  | _ => none

namespace State

variable {s s' : State} {i j : Nat} {pc : Pc} {e : Event} {records : List Record} {o : Owner}
  {p : Nat}

theorem owned_setCaller {caller : Caller} (h : (s.setCaller i caller).owned o = some p) :
    o = .loader i ∧ caller.pc.privateKey = some p ∨ o = .copy i ∧ caller.pc.copy = some p ∨
      s.owned o = some p := by
  cases o with
  | cached key => exact .inr (.inr h)
  | loader j =>
    by_cases hji : j = i
    · subst hji
      rw [owned, setCaller_self] at h
      exact .inl ⟨rfl, h⟩
    · rw [owned, setCaller_of_ne hji] at h
      exact .inr (.inr h)
  | copy j =>
    by_cases hji : j = i
    · subst hji
      rw [owned, setCaller_self] at h
      exact .inr (.inl ⟨rfl, h⟩)
    · rw [owned, setCaller_of_ne hji] at h
      exact .inr (.inr h)

/-- A caller that takes no new buffer. -/
theorem owned_setCaller_of_sub {caller : Caller}
    (hkey : ∀ p, caller.pc.privateKey = some p → (s.callers i).pc.privateKey = some p)
    (hcopy : ∀ p, caller.pc.copy = some p → (s.callers i).pc.copy = some p)
    (h : (s.setCaller i caller).owned o = some p) : s.owned o = some p := by
  rcases owned_setCaller h with ⟨rfl, hp⟩ | ⟨rfl, hp⟩ | h
  · exact hkey p hp
  · exact hcopy p hp
  · exact h

theorem Transition.callers_of_ne (ht : Transition s e s' records) (hne : j ≠ e.caller) :
    s'.callers j = s.callers j := by
  cases ht <;> first | exact Function.update_of_ne hne _ _ | rfl

/-- The cache keeps what it has: a key is published while no other is cached for it. -/
theorem Transition.keys_eq (he : Elected s) (ht : Transition s e s' records)
    {k : AudienceKeyCacheKey} (hk : s.keys k = some p) : s'.keys k = some p := by
  cases ht with
  | @publish i call privateKey hpc =>
    have hne : k ≠ (s.callers i).key := by
      rintro rfl
      have hcall := he.registered i call (by rw [hpc]; rfl)
      rw [he.cached _ (by simp [hk])] at hcall
      cases hcall
    exact (Function.update_of_ne hne _ _).trans hk
  | _ => exact hk

theorem Transition.owns (h : Owns s.buffers s.owned) (ht : Transition s e s' records) :
    Owns s'.buffers s'.owned := by
  -- What a caller has when it neither loads nor has returned a key.
  have hkeyless : ∀ {s₁ : State} {i : Nat} {caller : Caller}, caller.pc.privateKey = none →
      caller.pc.copy = none → ∀ o p, (s₁.setCaller i caller).owned o = some p →
        s₁.owned o = some p := by
    intro s₁ i caller hkey hcopy o p
    exact owned_setCaller_of_sub (by simp [hkey]) (by simp [hcopy])
  cases ht with
  | call hpc => exact h.mono le_rfl (hkeyless rfl rfl)
  | cancel => exact h.mono le_rfl fun o p => owned_setCaller_of_sub (fun _ => id) (fun _ => id)
  | @hit i privateKey hpc hkey =>
    refine h.alloc rfl (.copy i) ?_
    intro o p ho
    rcases owned_setCaller ho with ⟨-, hp⟩ | ⟨rfl, hp⟩ | ho
    · cases hp
    · exact .inl ⟨rfl, (Option.some.inj hp).symm⟩
    · exact .inr ho
  | join hpc hkey hcall => exact h.mono le_rfl (hkeyless rfl rfl)
  | elect hpc hkey hcall => exact h.mono le_rfl (hkeyless rfl rfl)
  | giveUp hpc hctx => exact h.mono le_rfl (hkeyless rfl rfl)
  | retry hpc hcall => exact h.mono le_rfl (hkeyless rfl rfl)
  | fail hpc hcall hctx => exact h.mono le_rfl (hkeyless rfl rfl)
  | @load i call outcome hpc =>
    refine h.alloc rfl (.loader i) ?_
    intro o p ho
    rcases owned_setCaller ho with ⟨rfl, hp⟩ | ⟨-, hp⟩ | ho
    · exact .inl ⟨rfl, (Option.some.inj hp).symm⟩
    · cases hp
    · exact .inr ho
  | @publish i call privateKey hpc =>
    refine h.alloc rfl (.cached (s.callers i).key) ?_
    intro o p ho
    rcases owned_setCaller ho with ⟨rfl, hp⟩ | ⟨-, hp⟩ | ho
    · refine .inr ?_
      rw [owned, hpc]
      exact hp
    · cases hp
    · cases o with
      | cached key =>
        change Function.update s.keys _ _ key = some p at ho
        by_cases hkey : key = (s.callers i).key
        · subst hkey
          rw [Function.update_self] at ho
          exact .inl ⟨rfl, (Option.some.inj ho).symm⟩
        · rw [Function.update_of_ne hkey] at ho
          exact .inr ho
      | loader j => exact .inr ho
      | copy j => exact .inr ho
  | discard hpc =>
    exact h.mono le_rfl fun o p =>
      owned_setCaller_of_sub (by simp [hpc, Pc.privateKey]) (by simp [Pc.copy])
  | @succeed i privateKey hpc =>
    refine h.alloc rfl (.copy i) ?_
    intro o p ho
    rcases owned_setCaller ho with ⟨-, hp⟩ | ⟨rfl, hp⟩ | ho
    · cases hp
    · exact .inl ⟨rfl, (Option.some.inj hp).symm⟩
    · exact .inr ho
  | report hpc => exact h.mono le_rfl (hkeyless rfl rfl)
  | clearCopy hpc => exact h.mono le_rfl fun o p ho => ho

/-- A buffer is written by its owner only. -/
theorem Transition.cell_eq (h : Owns s.buffers s.owned) (ht : Transition s e s' records)
    (ho : s.owned o = some p) (hne : e.zeroes ≠ some o) :
    s'.buffers.cell p = s.buffers.cell p := by
  cases ht with
  | hit hpc hkey => exact h.alloc_cell ho _
  | load hpc => exact h.alloc_cell ho _
  | publish hpc => exact h.alloc_cell ho _
  | @succeed i privateKey hpc =>
    have hother : p ≠ privateKey := by
      rintro rfl
      have howner : s.owned (.loader i) = some p := by rw [owned, hpc]; rfl
      exact hne (congrArg some (h.inj howner ho))
    exact (Buffers.clear_cell_of_ne hother).trans (h.alloc_cell ho _)
  | @report i privateKey err hpc =>
    have howner : s.owned (.loader i) = some privateKey := by rw [owned, hpc]; rfl
    exact h.set_cell ho howner (fun heq => hne (congrArg some heq.symm)) _
  | @clearCopy i result hpc =>
    have howner : s.owned (.copy i) = some result := by rw [owned, hpc]; rfl
    exact h.set_cell ho howner (fun heq => hne (congrArg some heq.symm)) _
  | _ => rfl

end State

/-! ### What the buffers hold -/

/-- A load for the key ended with the error. -/
def Failed (records : List Record) (k : AudienceKeyCacheKey) (err : LoadError) : Prop :=
  ∃ i o, .loadEnded i k o ∈ records ∧ o.error = some err

/-- The call that a caller waits for is in flight, or its error is that of a load for the key. -/
def Waits (records : List Record) (s : State) (k : AudienceKeyCacheKey) (call : Nat) : Prop :=
  s.inflight k = some call ∨ call < s.calls.next ∧ ∃ err, s.calls.cell call = some err ∧
    ∀ e, err = some e → Failed records k e

/-- What a caller holds is what its load returned, and what it has stored is cached. -/
def Holds (records : List Record) (s : State) (i : Nat) (k : AudienceKeyCacheKey) : Pc → Prop
  | .waiting call => Waits records s k call
  | .loaded _ privateKey err =>
    ∃ o, .loadEnded i k o ∈ records ∧ o.error = err ∧ o.privateKey = s.buffers.cell privateKey
  | .stored privateKey none =>
    ∃ q, s.keys k = some q ∧ s.buffers.cell q = s.buffers.cell privateKey
  | .stored _ (some err) => ∃ o, .loadEnded i k o ∈ records ∧ o.error = some err
  | _ => True

/-- What a call may return: the cached bytes, or an error. With a live context the error is that of
a load for the key, and another caller's only if no context is the reason for it. -/
def Admits (records : List Record) (s : State) (i : Nat) (k : AudienceKeyCacheKey) :
    Except LoadError Bytes → Bool → Prop
  | .ok key, _ => ∃ p, s.keys k = some p ∧ s.buffers.cell p = key
  | .error err, live => live = true → ∃ j o, .loadEnded j k o ∈ records ∧ o.error = some err ∧
      (j = i ∨ err.isContext = false)

/-- The invariant of the cache against what has been seen of the calls. -/
structure Sound (records : List Record) (s : State) : Prop where
  elected : Elected s
  owns : Owns s.buffers s.owned
  cached : ∀ k p, s.keys k = some p → ∃ i o, .loadEnded i k o ∈ records ∧ o.error = none ∧
    o.privateKey = s.buffers.cell p
  holds : ∀ i, Holds records s i (s.callers i).key (s.callers i).pc
  admits : ∀ i k result live, .returned i k result live ∈ records →
    Admits records s i k result live

namespace Sound

variable {s s' : State} {e : Event} {records new : List Record} {k : AudienceKeyCacheKey}
  {i call p : Nat}

theorem cell_cached (h : Sound records s) (ht : State.Transition s e s' new)
    (hk : s.keys k = some p) : s'.buffers.cell p = s.buffers.cell p := by
  refine ht.cell_eq h.owns (o := .cached k) hk ?_
  cases e <;> simp [Event.zeroes]

theorem cell_loader (h : Sound records s) (ht : State.Transition s e s' new) (hne : i ≠ e.caller)
    (hp : (s.callers i).pc.privateKey = some p) : s'.buffers.cell p = s.buffers.cell p := by
  refine ht.cell_eq h.owns (o := .loader i) hp ?_
  cases e <;> simp [Event.zeroes]
  exact fun heq => hne heq.symm

theorem failed_append {err : LoadError} (h : Failed records k err) :
    Failed (records ++ new) k err := by
  obtain ⟨i, o, hmem, herr⟩ := h
  exact ⟨i, o, List.mem_append_left _ hmem, herr⟩

/-- The call that a loader publishes answers those who wait for it. -/
theorem waits_published (h : Sound records s) {err : Option LoadError} {privateKey : Nat}
    (hpc : (s.callers i).pc = .loaded call privateKey err) {waited : Nat}
    (hw : Waits records s k waited) {s' : State} (hcalls : s'.calls = s.calls.set call (some err))
    (hinflight : s'.inflight = Function.update s.inflight (s.callers i).key none) :
    Waits records s' k waited := by
  have hreg := h.elected.registered i call (by rw [hpc]; rfl)
  obtain ⟨hlt, hpending⟩ := h.elected.pending _ _ hreg
  rw [Waits, hcalls, hinflight]
  rcases hw with hw | ⟨hw, answer, hanswer, hfailed⟩
  · by_cases hk : k = (s.callers i).key
    · subst hk
      obtain rfl : waited = call := Option.some.inj (hw.symm.trans hreg)
      refine .inr ⟨hlt, err, Heap.set_cell_self _ _ _, ?_⟩
      rintro e rfl
      have hholds := h.holds i
      rw [hpc] at hholds
      obtain ⟨o, hmem, herr, -⟩ := hholds
      exact ⟨i, o, hmem, herr⟩
    · exact .inl ((Function.update_of_ne hk _ _).trans hw)
  · have hne : waited ≠ call := by
      rintro rfl
      rw [hpending] at hanswer
      cases hanswer
    exact .inr ⟨hw, answer, (Heap.set_cell_of_ne _ _ hne).trans hanswer, hfailed⟩

theorem waits_append (h : Waits records s k call) : Waits (records ++ new) s k call := by
  rcases h with h | ⟨hlt, err, hcell, hfailed⟩
  · exact .inl h
  · exact .inr ⟨hlt, err, hcell, fun e he => failed_append (hfailed e he)⟩

theorem waits (h : Sound records s) (ht : State.Transition s e s' new)
    (hw : Waits records s k call) : Waits (records ++ new) s' k call := by
  apply waits_append
  cases ht with
  | @elect i hpc hkey hcall =>
    rcases hw with hw | ⟨hlt, err, hcell, hfailed⟩
    · have hne : k ≠ (s.callers i).key := by
        rintro rfl
        rw [hcall] at hw
        cases hw
      exact .inl ((Function.update_of_ne hne _ _).trans hw)
    · exact .inr ⟨Nat.lt_succ_of_lt hlt, err, (Heap.alloc_cell_of_lt _ _ hlt).trans hcell, hfailed⟩
  | publish hpc => exact h.waits_published hpc hw rfl rfl
  | discard hpc => exact h.waits_published hpc hw rfl rfl
  | _ => exact hw

theorem admits_keeps (h : Sound records s) (ht : State.Transition s e s' new)
    {result : Except LoadError Bytes} {live : Bool} (ha : Admits records s i k result live) :
    Admits (records ++ new) s' i k result live := by
  cases result with
  | ok key =>
    obtain ⟨p, hk, hcell⟩ := ha
    exact ⟨p, ht.keys_eq h.elected hk, (h.cell_cached ht hk).trans hcell⟩
  | error err =>
    intro hlive
    obtain ⟨j, o, hmem, herr⟩ := ha hlive
    exact ⟨j, o, List.mem_append_left _ hmem, herr⟩

/-- The callers that do not move hold what they held. -/
theorem holds_other (h : Sound records s) (ht : State.Transition s e s' new)
    (hne : i ≠ e.caller) :
    Holds (records ++ new) s' i (s'.callers i).key (s'.callers i).pc := by
  have hholds := h.holds i
  rw [ht.callers_of_ne hne]
  cases hpc : (s.callers i).pc with
  | waiting call =>
    rw [hpc] at hholds
    exact h.waits ht hholds
  | loaded call privateKey err =>
    rw [hpc] at hholds
    obtain ⟨o, hmem, herr, hkey⟩ := hholds
    have hcell := h.cell_loader ht hne (p := privateKey) (by rw [hpc]; rfl)
    exact ⟨o, List.mem_append_left _ hmem, herr, hkey.trans hcell.symm⟩
  | stored privateKey err =>
    rw [hpc] at hholds
    cases err with
    | none =>
      obtain ⟨q, hq, hcell⟩ := hholds
      refine ⟨q, ht.keys_eq h.elected hq, ?_⟩
      rw [h.cell_cached ht hq, h.cell_loader ht hne (p := privateKey) (by rw [hpc]; rfl), hcell]
    | some err =>
      obtain ⟨o, hmem, herr⟩ := hholds
      exact ⟨o, List.mem_append_left _ hmem, herr⟩
  | _ => trivial

theorem holds_of_eq {caller : Caller} (hcaller : s.callers i = caller)
    (h : Holds records s i caller.key caller.pc) :
    Holds records s i (s.callers i).key (s.callers i).pc := by
  rw [hcaller]
  exact h

/-- So does the caller that moves. -/
theorem holds_self (h : Sound records s) (ht : State.Transition s e s' new) :
    Holds (records ++ new) s' e.caller (s'.callers e.caller).key (s'.callers e.caller).pc := by
  cases ht with
  | call hpc => exact holds_of_eq State.setCaller_self trivial
  | @cancel i cause =>
    rw [List.append_nil]
    exact holds_of_eq State.setCaller_self (h.holds i)
  | hit hpc hkey => exact holds_of_eq State.setPc_self trivial
  | join hpc hkey hcall => exact holds_of_eq State.setPc_self (.inl hcall)
  | elect hpc hkey hcall => exact holds_of_eq State.setPc_self trivial
  | giveUp hpc hctx => exact holds_of_eq State.setPc_self trivial
  | retry hpc hcall => exact holds_of_eq State.setPc_self trivial
  | fail hpc hcall hctx => exact holds_of_eq State.setPc_self trivial
  | @load i call outcome hpc =>
    exact holds_of_eq State.setPc_self ⟨outcome, List.mem_append_right _ List.mem_cons_self, rfl,
      (Heap.alloc_cell_self _ _).symm⟩
  | @publish i call privateKey hpc =>
    have howner : s.owned (.loader i) = some privateKey := by rw [State.owned, hpc]; rfl
    have hcell : (s.buffers.copy privateKey).cell s.buffers.next =
        (s.buffers.copy privateKey).cell privateKey := by
      rw [State.copy_cell_next, Buffers.copy, h.owns.alloc_cell howner]
    exact holds_of_eq State.setPc_self ⟨s.buffers.next, Function.update_self _ _ _, hcell⟩
  | @discard i call privateKey err hpc =>
    have hholds := h.holds i
    rw [hpc] at hholds
    obtain ⟨o, hmem, herr, -⟩ := hholds
    exact holds_of_eq State.setPc_self ⟨o, List.mem_append_left _ hmem, herr⟩
  | succeed hpc => exact holds_of_eq State.setPc_self trivial
  | report hpc => exact holds_of_eq State.setPc_self trivial
  | @clearCopy i result hpc =>
    change Holds _ _ _ _ (s.callers i).pc
    rw [hpc]
    trivial

/-- What is returned is admitted. -/
theorem admits_new (h : Sound records s) (ht : State.Transition s e s' new)
    {result : Except LoadError Bytes} {live : Bool} (hnew : .returned i k result live ∈ new) :
    Admits (records ++ new) s' i k result live := by
  cases ht with
  | @hit i privateKey hpc hkey =>
    cases List.mem_singleton.mp hnew
    exact ⟨privateKey, hkey, h.cell_cached (.hit hpc hkey) hkey⟩
  | @giveUp i call cause hpc hctx =>
    cases List.mem_singleton.mp hnew
    intro hlive
    cases hlive
  | @fail i call err hpc hcall hctx =>
    cases List.mem_singleton.mp hnew
    intro hlive
    rw [hlive, Bool.true_and] at hctx
    have hholds := h.holds i
    rw [hpc] at hholds
    rcases hholds with hflight | ⟨-, answer, hanswer, hfailed⟩
    · rw [(h.elected.pending _ _ hflight).2] at hcall
      cases hcall
    · obtain ⟨j, o, hmem, herr⟩ := hfailed err (Option.some.inj (hanswer.symm.trans hcall))
      exact ⟨j, o, List.mem_append_left _ hmem, herr, .inr hctx⟩
  | @succeed i privateKey hpc =>
    cases List.mem_singleton.mp hnew
    have howner : s.owned (.loader i) = some privateKey := by rw [State.owned, hpc]; rfl
    have hne : s.buffers.next ≠ privateKey := (Nat.ne_of_lt (h.owns.lt howner)).symm
    have hholds := h.holds i
    rw [hpc] at hholds
    obtain ⟨q, hq, hcell⟩ := hholds
    refine ⟨q, hq, (h.cell_cached (.succeed hpc) hq).trans (hcell.trans ?_)⟩
    rw [Buffers.clear_cell_of_ne hne, State.copy_cell_next]
  | @report i privateKey err hpc =>
    cases List.mem_singleton.mp hnew
    intro _
    have hholds := h.holds i
    rw [hpc] at hholds
    obtain ⟨o, hmem, herr⟩ := hholds
    exact ⟨i, o, List.mem_append_left _ hmem, herr, .inl rfl⟩
  | load hpc => cases List.mem_singleton.mp hnew
  | elect hpc hkey hcall => cases List.mem_singleton.mp hnew
  | _ => cases hnew

/-- What is cached was loaded for its key. -/
theorem cached_step (h : Sound records s) (ht : State.Transition s e s' new)
    (hk : s'.keys k = some p) : ∃ i o, .loadEnded i k o ∈ records ++ new ∧ o.error = none ∧
      o.privateKey = s'.buffers.cell p := by
  have hkept : s.keys k = some p → ∃ i o, .loadEnded i k o ∈ records ++ new ∧ o.error = none ∧
      o.privateKey = s'.buffers.cell p := by
    intro hold
    obtain ⟨i, o, hmem, herr, hkey⟩ := h.cached k p hold
    exact ⟨i, o, List.mem_append_left _ hmem, herr, hkey.trans (h.cell_cached ht hold).symm⟩
  cases ht with
  | @publish i call privateKey hpc =>
    change Function.update s.keys _ _ k = some p at hk
    by_cases hkey : k = (s.callers i).key
    · subst hkey
      rw [Function.update_self] at hk
      obtain rfl := Option.some.inj hk
      have hholds := h.holds i
      rw [hpc] at hholds
      obtain ⟨o, hmem, herr, hbytes⟩ := hholds
      exact ⟨i, o, List.mem_append_left _ hmem, herr,
        hbytes.trans (State.copy_cell_next s.buffers privateKey).symm⟩
    · rw [Function.update_of_ne hkey] at hk
      exact hkept hk
  | _ => exact hkept hk

/-- The step lemma of the invariant. -/
theorem step (h : Sound records s) (e : Event) :
    Sound (records ++ (s.handle e).2) (s.step e) := by
  rcases s.handle_cases e with heq | ht
  · rw [State.step, heq, List.append_nil]
    exact h
  · refine ⟨h.elected.transition ht, ht.owns h.owns, fun k p => h.cached_step ht, ?_, ?_⟩
    · intro i
      by_cases hi : i = e.caller
      · subst hi
        exact h.holds_self ht
      · exact h.holds_other ht hi
    · intro i k result live hmem
      rcases List.mem_append.mp hmem with hold | hnew
      · exact h.admits_keeps ht (h.admits i k result live hold)
      · exact h.admits_new ht hnew

theorem owned_init (o : Owner) : State.owned {} o = none := by
  cases o <;> rfl

theorem init : Sound [] {} where
  elected := ⟨by simp [Pc.leads], by simp [Pc.leads], by simp, by simp, by simp⟩
  owns := ⟨by simp [owned_init], by simp [owned_init]⟩
  cached := by simp
  holds _ := trivial
  admits := by simp

/-- The run lemma: whatever the schedule, the invariant holds. -/
theorem of_run (es : List Event) : Sound (log {} es) (exec State.step {} es) := by
  refine exec_history (P := fun es s => Sound (log {} es) s) init ?_ es
  intro es e h
  rw [log, outputs_concat]
  exact h.step e

end Sound

end Meshd.Control.KeyCache

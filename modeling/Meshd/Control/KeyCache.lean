import Meshd.Control.LoadState
import Meshd.Framework.Buffers
import Meshd.Framework.Outputs

namespace Meshd.Control

open Meshd.Framework

/-! The cache of delivered audience keys under concurrent calls of `get`. What a call does while it
holds `mu` is one step; between two such steps the other calls run. -/

structure AudienceKeyCacheKey where
  protocol : String
  rolePath : String
  keyID : String
deriving DecidableEq

/-- What a load returns, and whether the end of its context is the reason for its error. -/
structure LoadOutcome where
  privateKey : Bytes := []
  err : Option LoadError := none
  interrupted : Bool := false
deriving DecidableEq

/-- The error of a load, which is not to return an empty key. -/
def LoadOutcome.error (o : LoadOutcome) : Option LoadError :=
  match o.err with
  | some e => some e
  | none =>
    if o.privateKey = [] then some (.plain "delivered audience key is empty") else none

/-- `errors.Is` with `context.Canceled` or `context.DeadlineExceeded`. -/
def LoadError.isContext (e : LoadError) : Bool := e.canceled || e.deadlineExceeded

/-- Why a context is done. -/
inductive ContextEnd
  | canceled
  | deadlineExceeded
deriving DecidableEq

/-- `ctx.Err()`. -/
def ContextEnd.err : ContextEnd → LoadError
  | .canceled => { canceled := true, message := "context canceled" }
  | .deadlineExceeded => { deadlineExceeded := true, message := "context deadline exceeded" }

namespace KeyCache

/-- Where a call of `get` is. A call in `loading` is inside `load`; in `loaded` it has the buffer
that `load` returned and waits for the lock; in `stored` it has given the lock back. -/
inductive Pc
  | idle
  | enter
  | waiting (call : Nat)
  | loading (call : Nat)
  | loaded (call privateKey : Nat) (err : Option LoadError)
  | stored (privateKey : Nat) (err : Option LoadError)
  | returned (result : Except LoadError Nat)

/-- A call of `get`, with the end of its context once that is done. -/
structure Caller where
  key : AudienceKeyCacheKey
  ctx : Option ContextEnd := none
  pc : Pc := .idle

/-- The cache, the process's buffers, and the calls made so far. An `audienceKeyCall` is `none` until
its channel is closed, and then its error. -/
structure State where
  keys : AudienceKeyCacheKey → Option Nat := fun _ => none
  inflight : AudienceKeyCacheKey → Option Nat := fun _ => none
  calls : Heap (Option (Option LoadError)) := ⟨0, fun _ => none⟩
  buffers : Buffers := ⟨0, fun _ => []⟩
  callers : Nat → Caller := fun _ => { key := ⟨"", "", ""⟩ }

/-- The steps of the callers, in the order of the schedule. A caller is identified by a number. -/
inductive Event
  | call (i : Nat) (key : AudienceKeyCacheKey)
  | cancel (i : Nat) (cause : ContextEnd)
  | lock (i : Nat)
  | ctxDone (i : Nat)
  | done (i : Nat)
  | load (i : Nat) (outcome : LoadOutcome)
  | store (i : Nat)
  | finish (i : Nat)
  | clearCopy (i : Nat)

/-- What an observer of the calls sees. A return says whether the caller's context is live. -/
inductive Record
  | loadBegan (i : Nat) (key : AudienceKeyCacheKey)
  | loadEnded (i : Nat) (key : AudienceKeyCacheKey) (outcome : LoadOutcome)
  | returned (i : Nat) (key : AudienceKeyCacheKey) (result : Except LoadError Bytes) (live : Bool)

namespace State

variable (s : State)

def setCaller (i : Nat) (caller : Caller) : State :=
  { s with callers := Function.update s.callers i caller }

def setPc (i : Nat) (pc : Pc) : State := s.setCaller i { s.callers i with pc }

/-- The return of a call, with the bytes it hands over. -/
def returns (i : Nat) (result : Except LoadError Nat) (buffers : Buffers) :
    State × List Record :=
  ({ s with buffers }.setPc i (.returned result),
    [.returned i (s.callers i).key (result.map buffers.cell) (s.callers i).ctx.isNone])

/-- The first locked section: a cached key is copied, a load in flight is waited for, and otherwise
the caller registers a load of its own. -/
def lock (i : Nat) : State × List Record :=
  let key := (s.callers i).key
  match s.keys key with
  | some privateKey => s.returns i (.ok s.buffers.next) (s.buffers.copy privateKey)
  | none =>
    match s.inflight key with
    | some call => (s.setPc i (.waiting call), [])
    | none =>
      ({ s with
          calls := s.calls.alloc none
          inflight := Function.update s.inflight key (some s.calls.next) }.setPc i
            (.loading s.calls.next),
        [.loadBegan i key])

/-- A waiter that finds the channel closed. -/
def wake (i : Nat) (err : Option LoadError) : State × List Record :=
  match err with
  | none => (s.setPc i .enter, [])
  | some err =>
    if (s.callers i).ctx.isNone && err.isContext then (s.setPc i .enter, [])
    else s.returns i (.error err) s.buffers

/-- The second locked section, in which the outcome of a load is published. -/
def store (i call privateKey : Nat) (err : Option LoadError) : State :=
  let key := (s.callers i).key
  let s := match err with
    | none =>
      { s with
        keys := Function.update s.keys key (some s.buffers.next)
        buffers := s.buffers.copy privateKey }
    | some _ => s
  { s with
    calls := s.calls.set call (some err)
    inflight := Function.update s.inflight key none }.setPc i (.stored privateKey err)

/-- What is left to a loader: its result, if it has one, is a copy of its own, and the buffer of the
load is zeroed. Nobody else has a reference to either. -/
def finish (i privateKey : Nat) : Option LoadError → State × List Record
  | some err => s.returns i (.error err) (s.buffers.clear privateKey)
  | none => s.returns i (.ok s.buffers.next) ((s.buffers.copy privateKey).clear privateKey)

/-- One step; an event that the state does not allow changes nothing. A waiter whose context is done
and whose channel is closed may take either case of the `select`. -/
def handle : Event → State × List Record
  | .call i key =>
    match (s.callers i).pc with
    | .idle => (s.setCaller i { key, pc := .enter }, [])
    | _ => (s, [])
  | .cancel i cause =>
    match (s.callers i).ctx with
    | none => (s.setCaller i { s.callers i with ctx := some cause }, [])
    | some _ => (s, [])
  | .lock i =>
    match (s.callers i).pc with
    | .enter => s.lock i
    | _ => (s, [])
  | .ctxDone i =>
    match (s.callers i).pc, (s.callers i).ctx with
    | .waiting _, some cause => s.returns i (.error cause.err) s.buffers
    | _, _ => (s, [])
  | .done i =>
    match (s.callers i).pc with
    | .waiting call =>
      match s.calls.cell call with
      | some err => s.wake i err
      | none => (s, [])
    | _ => (s, [])
  | .load i outcome =>
    match (s.callers i).pc with
    | .loading call =>
      ({ s with buffers := s.buffers.alloc outcome.privateKey }.setPc i
          (.loaded call s.buffers.next outcome.error),
        [.loadEnded i (s.callers i).key outcome])
    | _ => (s, [])
  | .store i =>
    match (s.callers i).pc with
    | .loaded call privateKey err => (s.store i call privateKey err, [])
    | _ => (s, [])
  | .finish i =>
    match (s.callers i).pc with
    | .stored privateKey err => s.finish i privateKey err
    | _ => (s, [])
  | .clearCopy i =>
    match (s.callers i).pc with
    | .returned (.ok result) => ({ s with buffers := s.buffers.clear result }, [])
    | _ => (s, [])

def step (e : Event) : State := (s.handle e).1

end State

/-- What is seen of a run, oldest first. -/
def log : State → List Event → List Record := outputs State.step fun s e => (s.handle e).2

namespace State

variable {s : State} {i j : Nat} {pc : Pc} {caller : Caller}

theorem setCaller_self : (s.setCaller i caller).callers i = caller := Function.update_self _ _ _

theorem setCaller_of_ne (h : j ≠ i) : (s.setCaller i caller).callers j = s.callers j :=
  Function.update_of_ne h _ _

theorem setPc_self : (s.setPc i pc).callers i = { s.callers i with pc } := setCaller_self

theorem setPc_of_ne (h : j ≠ i) : (s.setPc i pc).callers j = s.callers j := setCaller_of_ne h

theorem setPc_key : ((s.setPc i pc).callers j).key = (s.callers j).key := by
  by_cases h : j = i
  · rw [h, setPc_self]
  · rw [setPc_of_ne h]

/-- What an event can do, and what it shows, where it does anything. -/
inductive Transition (s : State) : Event → State → List Record → Prop
  | call {i : Nat} {key : AudienceKeyCacheKey} (hpc : (s.callers i).pc = .idle) :
    Transition s (.call i key) (s.setCaller i { key, pc := .enter }) []
  | cancel {i : Nat} {cause : ContextEnd} :
    Transition s (.cancel i cause) (s.setCaller i { s.callers i with ctx := some cause }) []
  | hit {i privateKey : Nat} (hpc : (s.callers i).pc = .enter)
      (hkey : s.keys (s.callers i).key = some privateKey) :
    Transition s (.lock i)
      ({ s with buffers := s.buffers.copy privateKey }.setPc i (.returned (.ok s.buffers.next)))
      [.returned i (s.callers i).key (.ok (s.buffers.cell privateKey)) (s.callers i).ctx.isNone]
  | join {i call : Nat} (hpc : (s.callers i).pc = .enter) (hkey : s.keys (s.callers i).key = none)
      (hcall : s.inflight (s.callers i).key = some call) :
    Transition s (.lock i) (s.setPc i (.waiting call)) []
  | elect {i : Nat} (hpc : (s.callers i).pc = .enter) (hkey : s.keys (s.callers i).key = none)
      (hcall : s.inflight (s.callers i).key = none) :
    Transition s (.lock i)
      ({ s with
          calls := s.calls.alloc none
          inflight := Function.update s.inflight (s.callers i).key (some s.calls.next) }.setPc i
            (.loading s.calls.next))
      [.loadBegan i (s.callers i).key]
  | giveUp {i call : Nat} {cause : ContextEnd} (hpc : (s.callers i).pc = .waiting call)
      (hctx : (s.callers i).ctx = some cause) :
    Transition s (.ctxDone i) (s.setPc i (.returned (.error cause.err)))
      [.returned i (s.callers i).key (.error cause.err) false]
  | retry {i call : Nat} {err : Option LoadError} (hpc : (s.callers i).pc = .waiting call)
      (hcall : s.calls.cell call = some err) :
    Transition s (.done i) (s.setPc i .enter) []
  | fail {i call : Nat} {err : LoadError} (hpc : (s.callers i).pc = .waiting call)
      (hcall : s.calls.cell call = some (some err))
      (hctx : ((s.callers i).ctx.isNone && err.isContext) = false) :
    Transition s (.done i) (s.setPc i (.returned (.error err)))
      [.returned i (s.callers i).key (.error err) (s.callers i).ctx.isNone]
  | load {i call : Nat} {outcome : LoadOutcome} (hpc : (s.callers i).pc = .loading call) :
    Transition s (.load i outcome)
      ({ s with buffers := s.buffers.alloc outcome.privateKey }.setPc i
        (.loaded call s.buffers.next outcome.error))
      [.loadEnded i (s.callers i).key outcome]
  | publish {i call privateKey : Nat} (hpc : (s.callers i).pc = .loaded call privateKey none) :
    Transition s (.store i)
      ({ s with
          keys := Function.update s.keys (s.callers i).key (some s.buffers.next)
          buffers := s.buffers.copy privateKey
          calls := s.calls.set call (some none)
          inflight := Function.update s.inflight (s.callers i).key none }.setPc i
            (.stored privateKey none)) []
  | discard {i call privateKey : Nat} {err : LoadError}
      (hpc : (s.callers i).pc = .loaded call privateKey (some err)) :
    Transition s (.store i)
      ({ s with
          calls := s.calls.set call (some (some err))
          inflight := Function.update s.inflight (s.callers i).key none }.setPc i
            (.stored privateKey (some err))) []
  | succeed {i privateKey : Nat} (hpc : (s.callers i).pc = .stored privateKey none) :
    Transition s (.finish i)
      ({ s with buffers := (s.buffers.copy privateKey).clear privateKey }.setPc i
        (.returned (.ok s.buffers.next)))
      [.returned i (s.callers i).key
        (.ok (((s.buffers.copy privateKey).clear privateKey).cell s.buffers.next))
        (s.callers i).ctx.isNone]
  | report {i privateKey : Nat} {err : LoadError}
      (hpc : (s.callers i).pc = .stored privateKey (some err)) :
    Transition s (.finish i)
      ({ s with buffers := s.buffers.clear privateKey }.setPc i (.returned (.error err)))
      [.returned i (s.callers i).key (.error err) (s.callers i).ctx.isNone]
  | clearCopy {i result : Nat} (hpc : (s.callers i).pc = .returned (.ok result)) :
    Transition s (.clearCopy i) { s with buffers := s.buffers.clear result } []

theorem copy_cell_next (h : Buffers) (p : Nat) : (h.copy p).cell h.next = h.cell p :=
  Heap.alloc_cell_self h _

theorem lock_transition (hpc : (s.callers i).pc = .enter) :
    Transition s (.lock i) (s.lock i).1 (s.lock i).2 := by
  cases hkey : s.keys (s.callers i).key with
  | some privateKey =>
    have h := Transition.hit hpc hkey
    rw [← copy_cell_next] at h
    simp only [lock, hkey]
    exact h
  | none =>
    cases hcall : s.inflight (s.callers i).key with
    | some call => simpa only [lock, hkey, hcall] using Transition.join hpc hkey hcall
    | none => simpa only [lock, hkey, hcall] using Transition.elect hpc hkey hcall

theorem wake_transition {call : Nat} {err : Option LoadError}
    (hpc : (s.callers i).pc = .waiting call) (hcall : s.calls.cell call = some err) :
    Transition s (.done i) (s.wake i err).1 (s.wake i err).2 := by
  cases err with
  | none => exact .retry hpc hcall
  | some err =>
    rw [wake]
    split
    · exact .retry hpc hcall
    · next h => exact .fail hpc hcall (Bool.not_eq_true _ ▸ h)

/-- The inversion lemma of the machine. -/
theorem handle_cases (s : State) (e : Event) :
    s.handle e = (s, []) ∨ Transition s e (s.handle e).1 (s.handle e).2 := by
  cases e with
  | call i key =>
    rw [handle]
    split
    · next hpc => exact .inr (.call hpc)
    · exact .inl rfl
  | cancel i cause =>
    rw [handle]
    split
    · exact .inr .cancel
    · exact .inl rfl
  | lock i =>
    rw [handle]
    split
    · next hpc => exact .inr (lock_transition hpc)
    · exact .inl rfl
  | ctxDone i =>
    rw [handle]
    split
    · next call cause hpc hctx =>
      rw [returns, hctx]
      exact .inr (.giveUp hpc hctx)
    · exact .inl rfl
  | done i =>
    rw [handle]
    split
    · next call hpc =>
      split
      · next err hcall => exact .inr (wake_transition hpc hcall)
      · exact .inl rfl
    · exact .inl rfl
  | load i outcome =>
    rw [handle]
    split
    · next call hpc => exact .inr (.load hpc)
    · exact .inl rfl
  | store i =>
    rw [handle]
    split
    · next call privateKey err hpc =>
      cases err with
      | none => exact .inr (.publish hpc)
      | some err => exact .inr (.discard hpc)
    · exact .inl rfl
  | finish i =>
    rw [handle]
    split
    · next privateKey err hpc =>
      cases err with
      | none => exact .inr (.succeed hpc)
      | some err => exact .inr (.report hpc)
    · exact .inl rfl
  | clearCopy i =>
    rw [handle]
    split
    · next result hpc => exact .inr (.clearCopy hpc)
    · exact .inl rfl

end State

/-! ### Who loads -/

/-- The call that a caller leads: from its registration until its outcome is published. -/
def Pc.leads : Pc → Option Nat
  | .loading call => some call
  | .loaded call _ _ => some call
  | _ => none

/-- The loads in flight are those of the callers that lead them, one for a key, and none for a
cached one. -/
structure Elected (s : State) : Prop where
  registered : ∀ i call, (s.callers i).pc.leads = some call →
    s.inflight (s.callers i).key = some call
  leader : ∀ i j call, (s.callers i).pc.leads = some call → (s.callers j).pc.leads = some call →
    i = j
  key : ∀ k k' call, s.inflight k = some call → s.inflight k' = some call → k = k'
  pending : ∀ k call, s.inflight k = some call →
    call < s.calls.next ∧ s.calls.cell call = none
  cached : ∀ k, s.keys k ≠ none → s.inflight k = none

namespace Elected

variable {s s' : State} {i : Nat} {pc : Pc}

/-- At most one caller loads a key. -/
theorem unique (h : Elected s) {j call call' : Nat} (hi : (s.callers i).pc.leads = some call)
    (hj : (s.callers j).pc.leads = some call') (hkey : (s.callers i).key = (s.callers j).key) :
    i = j := by
  have hcall : some call = some call' := by
    rw [← h.registered i call hi, hkey, h.registered j call' hj]
  exact h.leader i j call hi (hcall ▸ hj)

/-- A step that touches no call, and after which nobody leads who did not before. -/
theorem mono (h : Elected s) (hkeys : s'.keys = s.keys) (hinflight : s'.inflight = s.inflight)
    (hcalls : s'.calls = s.calls)
    (hleads : ∀ j call, (s'.callers j).pc.leads = some call →
      (s.callers j).pc.leads = some call ∧ (s'.callers j).key = (s.callers j).key) :
    Elected s' where
  registered j call hj := by
    obtain ⟨hlead, hkey⟩ := hleads j call hj
    rw [hinflight, hkey]
    exact h.registered j call hlead
  leader j k call hj hk := h.leader j k call (hleads j call hj).1 (hleads k call hk).1
  key := hinflight ▸ h.key
  pending := hinflight ▸ hcalls ▸ h.pending
  cached := hinflight ▸ hkeys ▸ h.cached

theorem setPc (h : Elected s)
    (hpc : ∀ call, pc.leads = some call → (s.callers i).pc.leads = some call) :
    Elected (s.setPc i pc) := by
  refine h.mono rfl rfl rfl ?_
  intro j call hj
  by_cases hji : j = i
  · subst hji
    rw [State.setPc_self] at hj ⊢
    exact ⟨hpc call hj, rfl⟩
  · rw [State.setPc_of_ne hji] at hj ⊢
    exact ⟨hj, rfl⟩

theorem withBuffers (h : Elected s) (buffers : Buffers) : Elected { s with buffers } :=
  ⟨h.registered, h.leader, h.key, h.pending, h.cached⟩

/-- A caller that registers a load of its own. -/
theorem elect (h : Elected s) (hkey : s.keys (s.callers i).key = none)
    (hcall : s.inflight (s.callers i).key = none) :
    Elected ({ s with
      calls := s.calls.alloc none
      inflight := Function.update s.inflight (s.callers i).key (some s.calls.next) }.setPc i
        (.loading s.calls.next)) := by
  set k₀ := (s.callers i).key
  set s₁ : State := { s with
    calls := s.calls.alloc none
    inflight := Function.update s.inflight k₀ (some s.calls.next) }
  have hnew : ∀ k call, s.inflight k = some call → call ≠ s.calls.next := by
    intro k call hk
    exact Nat.ne_of_lt (h.pending k call hk).1
  -- Whoever led before leads a call older than the new one, for another key.
  have hleads : ∀ j call, ((s₁.setPc i (.loading s.calls.next)).callers j).pc.leads = some call →
      j = i ∧ call = s.calls.next ∨
        j ≠ i ∧ (s.callers j).pc.leads = some call ∧ (s.callers j).key ≠ k₀ := by
    intro j call hj
    by_cases hji : j = i
    · subst hji
      rw [State.setPc_self] at hj
      exact .inl ⟨rfl, (Option.some.inj hj).symm⟩
    · rw [State.setPc_of_ne hji] at hj
      refine .inr ⟨hji, hj, ?_⟩
      intro hkj
      have hreg := h.registered j call hj
      rw [hkj, hcall] at hreg
      cases hreg
  have hinflight : ∀ k call, s₁.inflight k = some call →
      k = k₀ ∧ call = s.calls.next ∨ k ≠ k₀ ∧ s.inflight k = some call := by
    intro k call hk
    change Function.update s.inflight k₀ _ k = _ at hk
    by_cases hkk : k = k₀
    · subst hkk
      rw [Function.update_self] at hk
      exact .inl ⟨rfl, (Option.some.inj hk).symm⟩
    · rw [Function.update_of_ne hkk] at hk
      exact .inr ⟨hkk, hk⟩
  refine ⟨?_, ?_, ?_, ?_, ?_⟩
  · intro j call hj
    rw [State.setPc_key]
    rcases hleads j call hj with ⟨rfl, rfl⟩ | ⟨-, hlead, hne⟩
    · exact Function.update_self _ _ _
    · exact (Function.update_of_ne hne _ _).trans (h.registered j call hlead)
  · intro j j' call hj hj'
    rcases hleads j call hj with ⟨rfl, rfl⟩ | ⟨-, hlead, -⟩ <;>
      rcases hleads j' _ hj' with ⟨rfl, hcall'⟩ | ⟨-, hlead', -⟩
    · rfl
    · exact absurd rfl (hnew _ _ (h.registered _ _ hlead'))
    · exact absurd hcall' (hnew _ _ (h.registered _ _ hlead))
    · exact h.leader _ _ _ hlead hlead'
  · intro k k' call hk hk'
    rcases hinflight k call hk with ⟨rfl, rfl⟩ | ⟨-, hk⟩ <;>
      rcases hinflight k' _ hk' with ⟨rfl, hcall'⟩ | ⟨-, hk'⟩
    · rfl
    · exact absurd rfl (hnew _ _ hk')
    · exact absurd hcall' (hnew _ _ hk)
    · exact h.key _ _ _ hk hk'
  · intro k call hk
    rcases hinflight k call hk with ⟨rfl, rfl⟩ | ⟨-, hk⟩
    · exact ⟨Nat.lt_succ_self _, Heap.alloc_cell_self _ _⟩
    · obtain ⟨hlt, hopen⟩ := h.pending k call hk
      exact ⟨Nat.lt_succ_of_lt hlt, (Heap.alloc_cell_of_lt _ _ hlt).trans hopen⟩
  · intro k hk
    have hne : k ≠ k₀ := by
      rintro rfl
      exact hk hkey
    exact (Function.update_of_ne hne _ _).trans (h.cached k hk)

/-- A caller that takes its load out of flight. -/
theorem publish (h : Elected s) {call : Nat} (hlead : (s.callers i).pc.leads = some call)
    (keys : AudienceKeyCacheKey → Option Nat)
    (hkeys : ∀ k, k ≠ (s.callers i).key → keys k = s.keys k) (err : Option LoadError)
    (hpc : pc.leads = none) :
    Elected ({ s with
      keys
      calls := s.calls.set call (some err)
      inflight := Function.update s.inflight (s.callers i).key none }.setPc i pc) := by
  set k₀ := (s.callers i).key
  set s₁ : State := { s with
    keys
    calls := s.calls.set call (some err)
    inflight := Function.update s.inflight k₀ none }
  have hleads : ∀ j call', ((s₁.setPc i pc).callers j).pc.leads = some call' →
      (s.callers j).pc.leads = some call' ∧ (s.callers j).key ≠ k₀ := by
    intro j call' hj
    by_cases hji : j = i
    · subst hji
      rw [State.setPc_self, hpc] at hj
      cases hj
    · rw [State.setPc_of_ne hji] at hj
      exact ⟨hj, fun hkj => hji (h.unique hj hlead hkj)⟩
  have hinflight : ∀ k call', s₁.inflight k = some call' → k ≠ k₀ ∧ s.inflight k = some call' := by
    intro k call' hk
    change Function.update s.inflight k₀ _ k = _ at hk
    by_cases hkk : k = k₀
    · subst hkk
      rw [Function.update_self] at hk
      cases hk
    · rw [Function.update_of_ne hkk] at hk
      exact ⟨hkk, hk⟩
  refine ⟨?_, ?_, ?_, ?_, ?_⟩
  · intro j call' hj
    obtain ⟨hlead', hne⟩ := hleads j call' hj
    rw [State.setPc_key]
    exact (Function.update_of_ne hne _ _).trans (h.registered j call' hlead')
  · intro j j' call' hj hj'
    exact h.leader j j' call' (hleads j call' hj).1 (hleads j' call' hj').1
  · intro k k' call' hk hk'
    exact h.key k k' call' (hinflight k call' hk).2 (hinflight k' call' hk').2
  · intro k call' hk
    obtain ⟨hne, hold⟩ := hinflight k call' hk
    obtain ⟨hlt, hopen⟩ := h.pending k call' hold
    have hother : call' ≠ call := by
      rintro rfl
      exact hne (h.key _ _ _ hold (h.registered i _ hlead))
    exact ⟨hlt, (Heap.set_cell_of_ne _ _ hother).trans hopen⟩
  · intro k hk
    by_cases hkk : k = k₀
    · subst hkk
      exact Function.update_self _ _ _
    · refine (Function.update_of_ne hkk _ _).trans (h.cached k ?_)
      rw [← hkeys k hkk]
      exact hk

theorem transition {e : Event} {records : List Record} (h : Elected s)
    (ht : State.Transition s e s' records) : Elected s' := by
  cases ht with
  | @call i key hpc =>
    refine h.mono rfl rfl rfl ?_
    intro j call hj
    by_cases hji : j = i
    · subst hji
      rw [State.setCaller_self] at hj
      cases hj
    · rw [State.setCaller_of_ne hji] at hj ⊢
      exact ⟨hj, rfl⟩
  | @cancel i cause =>
    refine h.mono rfl rfl rfl ?_
    intro j call hj
    by_cases hji : j = i
    · subst hji
      rw [State.setCaller_self] at hj ⊢
      exact ⟨hj, rfl⟩
    · rw [State.setCaller_of_ne hji] at hj ⊢
      exact ⟨hj, rfl⟩
  | hit hpc hkey => exact (h.withBuffers _).setPc (by simp [Pc.leads])
  | join hpc hkey hcall => exact h.setPc (by simp [Pc.leads])
  | elect hpc hkey hcall => exact h.elect hkey hcall
  | giveUp hpc hctx => exact h.setPc (by simp [Pc.leads])
  | retry hpc hcall => exact h.setPc (by simp [Pc.leads])
  | fail hpc hcall hctx => exact h.setPc (by simp [Pc.leads])
  | load hpc => exact (h.withBuffers _).setPc (by simp [hpc, Pc.leads])
  | @publish i call privateKey hpc =>
    exact (h.withBuffers (s.buffers.copy privateKey)).publish (by simp [hpc, Pc.leads])
      _ (fun k hk => Function.update_of_ne hk _ _) none rfl
  | discard hpc =>
    exact h.publish (by rw [hpc]; rfl) s.keys (fun _ _ => rfl) _ rfl
  | succeed hpc => exact (h.withBuffers _).setPc (by simp [Pc.leads])
  | report hpc => exact (h.withBuffers _).setPc (by simp [Pc.leads])
  | clearCopy hpc => exact h.withBuffers _

end Elected

end KeyCache

end Meshd.Control

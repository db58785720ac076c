import Meshd.Control.KeyCacheBuffers
import Meshd.Control.WireLoad

namespace Meshd.Control.KeyCache

open Meshd.Framework

/-! What the callers of the cache can rely on, whatever the schedule. -/

/-- The loads of a run say so when the end of their context made them fail. -/
def Honest (es : List Event) : Prop :=
  ∀ i o e, .load i o ∈ es → o.interrupted = true → o.error = some e → e.isContext = true

section Runs
variable {s s' : State} {es fs : List Event} {k : AudienceKeyCacheKey} {e : Event}
  {records new : List Record} {i j p q : Nat} {key : Bytes}

/-- What is seen of a run is seen of one of its transitions. -/
theorem transition_of_mem_log {record : Record} (h : record ∈ log s es) :
    ∃ before e after, es = before ++ e :: after ∧ ∃ t' new,
      State.Transition (exec State.step s before) e t' new ∧ record ∈ new := by
  obtain ⟨before, e, after, hes, hmem⟩ := exists_of_mem_outputs h
  refine ⟨before, e, after, hes, ?_⟩
  rcases (exec State.step s before).handle_cases e with heq | ht
  · rw [heq] at hmem
    cases hmem
  · exact ⟨_, _, ht, hmem⟩

theorem load_of_loadEnded {o : LoadOutcome} (h : .loadEnded i k o ∈ log s es) :
    .load i o ∈ es := by
  obtain ⟨before, e, after, rfl, t', new, ht, hmem⟩ := transition_of_mem_log h
  cases ht with
  | load hpc =>
    cases List.mem_singleton.mp hmem
    simp
  | _ => simp at hmem

/-- The invariant goes on from any state that has it. -/
theorem Sound.exec_from (h : Sound records s) (fs : List Event) :
    ∃ records', Sound records' (exec State.step s fs) :=
  exec_invariant (P := fun t => ∃ records, Sound records t) ⟨records, h⟩
    (fun _ e ⟨_, h⟩ => ⟨_, h.step e⟩) fs

/-- A rule for what survives every step of a run from a sound state. -/
theorem Sound.exec_keeps {P : State → Prop} (h : Sound records s) (h0 : P s)
    (hstep : ∀ t t' e (records new : List Record), Sound records t → e ∈ fs →
      State.Transition t e t' new → P t → P t') : P (exec State.step s fs) := by
  have hrun : ∀ es, es ⊆ fs → P (exec State.step s es) := by
    intro es
    refine exec_history (P := fun es t => es ⊆ fs → P t) (fun _ => h0) ?_ es
    intro es e ih hsub
    have hP := ih fun f hf => hsub (List.mem_append_left _ hf)
    obtain ⟨records, hsound⟩ := h.exec_from es
    rcases (exec State.step s es).handle_cases e with heq | ht
    · rw [State.step, heq]
      exact hP
    · exact hstep _ _ e _ _ hsound (hsub (List.mem_append_right _ List.mem_cons_self)) ht hP
  exact hrun fs (List.Subset.refl fs)

/-- A cached key stays cached, with the same bytes. -/
theorem Sound.cached_forever (h : Sound records s) (hk : s.keys k = some p) (fs : List Event) :
    (exec State.step s fs).keys k = some p ∧
      (exec State.step s fs).buffers.cell p = s.buffers.cell p := by
  refine h.exec_keeps
    (P := fun t => t.keys k = some p ∧ t.buffers.cell p = s.buffers.cell p) ⟨hk, rfl⟩ ?_
  rintro t t' e records new hsound - ht ⟨hkey, hcell⟩
  exact ⟨ht.keys_eq hsound.elected hkey, (hsound.cell_cached ht hkey).trans hcell⟩

theorem State.Transition.returned_stays {result : Except LoadError Nat}
    (ht : State.Transition s e s' new) (hpc : (s.callers j).pc = .returned result) :
    (s'.callers j).pc = .returned result := by
  by_cases hj : j = e.caller
  · subst hj
    cases ht with
    | cancel => exact (congrArg Caller.pc State.setCaller_self).trans hpc
    | clearCopy _ => exact hpc
    | _ => simp_all [Event.caller]
  · rw [ht.callers_of_ne hj]
    exact hpc

/-- A caller's copy is its own: only the caller itself changes it. -/
theorem Sound.copy_forever (h : Sound records s) (hpc : (s.callers j).pc = .returned (.ok q))
    (hclear : .clearCopy j ∉ fs) :
    ((exec State.step s fs).callers j).pc = .returned (.ok q) ∧
      (exec State.step s fs).buffers.cell q = s.buffers.cell q := by
  refine h.exec_keeps (P := fun t => (t.callers j).pc = .returned (.ok q) ∧
    t.buffers.cell q = s.buffers.cell q) ⟨hpc, rfl⟩ ?_
  rintro t t' e records new hsound hmem ht ⟨hpc, hcell⟩
  have howner : t.owned (.copy j) = some q := by rw [State.owned, hpc]; rfl
  have hzeroes : e.zeroes ≠ some (.copy j) := by
    intro hz
    cases e with
    | clearCopy i =>
      cases hz
      exact hclear hmem
    | _ => cases hz
  exact ⟨ht.returned_stays hpc, (ht.cell_eq hsound.owns howner hzeroes).trans hcell⟩

/-- A caller that comes once the key is cached neither waits for it nor loads it. -/
def Served (s : State) (k : AudienceKeyCacheKey) (j : Nat) : Prop :=
  (s.callers j).pc = .idle ∨ (s.callers j).key ≠ k ∨ (s.callers j).pc = .enter ∨
    ∃ result, (s.callers j).pc = .returned result

/-- A call keeps its key. -/
theorem State.Transition.key_eq (ht : State.Transition s e s' new)
    (hpc : (s.callers j).pc ≠ .idle) : (s'.callers j).key = (s.callers j).key := by
  by_cases hj : j = e.caller
  · subst hj
    cases ht with
    | call h => exact absurd h hpc
    | cancel => exact (congrArg Caller.key State.setCaller_self).trans rfl
    | clearCopy h => rfl
    | _ => exact State.setPc_key
  · rw [ht.callers_of_ne hj]

theorem State.Transition.served (ht : State.Transition s e s' new) (hk : s.keys k = some p)
    (h : Served s k j) : Served s' k j := by
  by_cases hj : j = e.caller
  · subst hj
    by_cases hidle : (s.callers e.caller).pc = .idle
    · cases ht with
      | call hpc => exact .inr (.inr (.inl (congrArg Caller.pc State.setCaller_self)))
      | cancel => exact .inl ((congrArg Caller.pc State.setCaller_self).trans hidle)
      | _ => simp_all [Event.caller]
    · have hkeys := ht.key_eq hidle
      rcases h with h | hkey | henter | ⟨result, hreturned⟩
      · exact absurd h hidle
      · exact .inr (.inl (hkeys ▸ hkey))
      · cases ht with
        | cancel =>
          exact .inr (.inr (.inl ((congrArg Caller.pc State.setCaller_self).trans henter)))
        | hit hpc hkey => exact .inr (.inr (.inr ⟨_, congrArg Caller.pc State.setPc_self⟩))
        | join hpc hkey hcall =>
          refine .inr (.inl ?_)
          rintro rfl
          exact absurd (hk.symm.trans (hkeys ▸ hkey)) (by simp)
        | elect hpc hkey hcall =>
          refine .inr (.inl ?_)
          rintro rfl
          exact absurd (hk.symm.trans (hkeys ▸ hkey)) (by simp)
        | _ => simp_all [Event.caller]
      · exact .inr (.inr (.inr ⟨result, ht.returned_stays hreturned⟩))
  · rw [Served, ht.callers_of_ne hj]
    exact h

theorem State.Transition.returned_served {result : Except LoadError Bytes} {live : Bool}
    (ht : State.Transition s e s' new) (hk : s.keys k = some p) (h : Served s k j)
    (hmem : .returned j k result live ∈ new) : result = .ok (s.buffers.cell p) := by
  cases ht with
  | @hit i privateKey hpc hkey =>
    cases List.mem_singleton.mp hmem
    rw [Option.some.inj (hkey.symm.trans hk)]
  | giveUp hpc hctx =>
    cases List.mem_singleton.mp hmem
    simp [Served, hpc] at h
  | fail hpc hcall hctx =>
    cases List.mem_singleton.mp hmem
    simp [Served, hpc] at h
  | succeed hpc =>
    cases List.mem_singleton.mp hmem
    simp [Served, hpc] at h
  | report hpc =>
    cases List.mem_singleton.mp hmem
    simp [Served, hpc] at h
  | _ => simp at hmem

theorem State.Transition.no_load_of_cached (ht : State.Transition s e s' new)
    (hk : s.keys k = some p) : .loadBegan j k ∉ new := by
  intro hmem
  cases ht with
  | elect hpc hkey hcall =>
    cases List.mem_singleton.mp hmem
    rw [hkey] at hk
    cases hk
  | _ => simp at hmem

/-- Nobody begins to load a key that is cached. -/
theorem Sound.no_load_of_cached (h : Sound records s) (hk : s.keys k = some p) :
    .loadBegan j k ∉ log s fs := by
  intro hmem
  obtain ⟨before, e, after, rfl, t', new, ht, hmem⟩ := transition_of_mem_log hmem
  exact ht.no_load_of_cached (h.cached_forever hk before).1 hmem

/-- A call that begins once the key is cached returns nothing but its bytes. -/
theorem Sound.returned_of_cached (h : Sound records s) (hk : s.keys k = some p)
    (hidle : (s.callers j).pc = .idle) {result : Except LoadError Bytes} {live : Bool}
    (hmem : .returned j k result live ∈ log s fs) : result = .ok (s.buffers.cell p) := by
  obtain ⟨before, e, after, rfl, t', new, ht, hmem⟩ := transition_of_mem_log hmem
  obtain ⟨hkey, hcell⟩ := h.cached_forever hk before
  have hserved : (exec State.step s before).keys k = some p ∧
      Served (exec State.step s before) k j := by
    refine h.exec_keeps (P := fun t => t.keys k = some p ∧ Served t k j) ⟨hk, .inl hidle⟩ ?_
    rintro t t' e records new hsound - ht ⟨hkey, hserved⟩
    exact ⟨ht.keys_eq hsound.elected hkey, ht.served hkey hserved⟩
  rw [← hcell]
  exact ht.returned_served hkey hserved.2 hmem

/-- It does return them, as soon as it has the lock. -/
theorem State.lock_of_cached (hk : s.keys k = some p)
    (hkey : (s.callers j).key = k) (hpc : (s.callers j).pc = .enter) :
    (s.handle (.lock j)).2 =
      [.returned j k (.ok (s.buffers.cell p)) (s.callers j).ctx.isNone] := by
  subst hkey
  have hcell : (s.buffers.copy p).cell s.buffers.next = s.buffers.cell p :=
    State.copy_cell_next s.buffers p
  simp only [State.handle, hpc, State.lock, hk, State.returns, Except.map, hcell]

end Runs

/-- A caller has a load for the key in flight, from its election until the outcome is published. -/
def InFlight (s : State) (k : AudienceKeyCacheKey) (i : Nat) : Prop :=
  (s.callers i).key = k ∧ (s.callers i).pc.leads ≠ none

/-- The cache under every schedule of calls, cancellations, load outcomes and clears. (1) A key has
one load in flight at most. (2) Once a call for a key has succeeded, no load for it begins, and the
calls that come later return the same bytes as soon as they have the lock. (3) What is cached is
what a load for the key returned without an error. (4) Where loads say that their context ended
them, a caller with a live context does not return an error of this kind from another's load. (5) A
returned key is what a load for the key returned, and neither the cached keys nor a caller's copy
are changed by what the others do with theirs. -/
theorem single_flight (es : List Event) :
    (∀ k i j, InFlight (exec State.step {} es) k i → InFlight (exec State.step {} es) k j → i = j) ∧
    (∀ i k key live, .returned i k (.ok key) live ∈ log {} es → ∀ fs,
      (∀ j, .loadBegan j k ∉ log (exec State.step {} es) fs) ∧
      (∀ j result live', ((exec State.step {} es).callers j).pc = .idle →
        .returned j k result live' ∈ log (exec State.step {} es) fs → result = .ok key) ∧
      ∀ j, ((exec State.step {} (es ++ fs)).callers j).key = k →
        ((exec State.step {} (es ++ fs)).callers j).pc = .enter →
        ((exec State.step {} (es ++ fs)).handle (.lock j)).2 =
          [.returned j k (.ok key) ((exec State.step {} (es ++ fs)).callers j).ctx.isNone]) ∧
    (∀ k p, (exec State.step {} es).keys k = some p → ∃ i o, .loadEnded i k o ∈ log {} es ∧
      o.error = none ∧ o.privateKey = (exec State.step {} es).buffers.cell p) ∧
    (Honest es → ∀ i k err, .returned i k (.error err) true ∈ log {} es →
      (∃ o, .loadEnded i k o ∈ log {} es ∧ o.error = some err) ∨
      (∃ j o, .loadEnded j k o ∈ log {} es ∧ o.error = some err) ∧
        ∀ j o, .loadEnded j k o ∈ log {} es → o.error = some err → o.interrupted = false) ∧
    (∀ i k key live, .returned i k (.ok key) live ∈ log {} es → ∃ j o,
      .loadEnded j k o ∈ log {} es ∧ o.error = none ∧ o.privateKey = key) ∧
    ∀ fs,
      (∀ k p, (exec State.step {} es).keys k = some p →
        (exec State.step {} (es ++ fs)).keys k = some p ∧
        (exec State.step {} (es ++ fs)).buffers.cell p =
          (exec State.step {} es).buffers.cell p) ∧
      ∀ j q, ((exec State.step {} es).callers j).pc = .returned (.ok q) → .clearCopy j ∉ fs →
        ((exec State.step {} (es ++ fs)).callers j).pc = .returned (.ok q) ∧
        (exec State.step {} (es ++ fs)).buffers.cell q =
          (exec State.step {} es).buffers.cell q := by
  have h := Sound.of_run es
  have hmore : ∀ fs, exec State.step {} (es ++ fs) = exec State.step (exec State.step {} es) fs :=
    fun fs => exec_append _ _ _ _
  refine ⟨?_, ?_, h.cached, ?_, ?_, ?_⟩
  · rintro k i j ⟨hi, hleads⟩ ⟨hj, hleads'⟩
    obtain ⟨call, hcall⟩ := Option.ne_none_iff_exists'.mp hleads
    obtain ⟨call', hcall'⟩ := Option.ne_none_iff_exists'.mp hleads'
    exact h.elected.unique hcall hcall' (hi.trans hj.symm)
  · intro i k key live hreturned fs
    obtain ⟨p, hk, rfl⟩ := h.admits i k _ live hreturned
    refine ⟨fun j => h.no_load_of_cached hk, fun j result live' => ?_, ?_⟩
    · exact fun hidle hmem => h.returned_of_cached hk hidle hmem
    · intro j hkey hpc
      rw [hmore] at hkey hpc ⊢
      obtain ⟨hkept, hcell⟩ := h.cached_forever hk fs
      rw [← hcell]
      exact State.lock_of_cached hkept hkey hpc
  · intro hhonest i k err hreturned
    obtain ⟨j, o, hmem, herr, rfl | hcontext⟩ := h.admits i k _ true hreturned rfl
    · exact .inl ⟨o, hmem, herr⟩
    · refine .inr ⟨⟨j, o, hmem, herr⟩, ?_⟩
      intro j' o' hmem' herr'
      by_contra hinterrupted
      have hmarked := hhonest j' o' err (load_of_loadEnded hmem')
        (Bool.not_eq_false _ ▸ hinterrupted) herr'
      rw [hcontext] at hmarked
      cases hmarked
  · intro i k key live hreturned
    obtain ⟨p, hk, rfl⟩ := h.admits i k _ live hreturned
    exact h.cached k p hk
  · intro fs
    rw [hmore]
    exact ⟨fun k p hk => h.cached_forever hk fs, fun j q hpc hclear => h.copy_forever hpc hclear⟩

/-! ### The loads of the control client -/

section Delivery
open Meshd.Dwn (Codec Exchange)

variable (codec : Codec) (ring : KeyRing)

/-- The load that `decryptViaDelivery` hands to the cache. What ended its requests is known to the
run: the error of a body that could not be read does not show it. -/
def deliveryLoad (lookup : Lookup) (info : RoleAudienceInfo) (interrupted : Bool) : LoadOutcome :=
  match (queryDeliveryAudiencePrivateKey codec ring lookup info).run [] with
  | .ok privateKey _ => { privateKey, interrupted }
  | .error err _ => { err := some err, interrupted }

/-! A load whose context is cancelled while the response is read, with a caller that waits for it. -/

def homeAudience : RoleAudienceInfo where
  protocol := "https://enbox.id/protocols/wireguard-mesh"
  rolePath := "network/node"
  keyID := "key-5"

def homeKey : AudienceKeyCacheKey where
  protocol := homeAudience.protocol
  rolePath := homeAudience.rolePath
  keyID := homeAudience.keyID

def homeRing : KeyRing where
  selfDID := "did:jwk:alice"
  anchorTenant := "did:dht:owner"
  encManager := some ⟨List.replicate 32 5, homeAudience.protocol⟩

/-- The response has no `dwn-response` header, so nothing but its body is decoded. -/
def bodyCodec : Codec where
  jsonRpcResponse _ := .error "unexpected end of JSON input"
  retryAfterSec _ := .ok none
  httpTime _ := none
  caseMap := Dwn.StatusDetail.widthMap
  parseDuration _ := none

def cutLookup : Lookup where
  exchange := .answered { body := .error "context canceled" }
  retry := .answered { body := .error "context canceled" }
  audiences _ := .ok []
  deliveries _ := .ok []

def cutLoad : LoadOutcome := deliveryLoad bodyCodec homeRing cutLookup homeAudience true

/-- The first caller is cancelled. The second, whose context is live, returns with the first. -/
theorem waiter_cancelled_with_loader :
    cutLoad.interrupted = true ∧
    log {} [.call 0 homeKey, .lock 0, .call 1 homeKey, .lock 1, .cancel 0 .canceled,
        .load 0 cutLoad, .store 0, .done 1] =
      [.loadBegan 0 homeKey, .loadEnded 0 homeKey cutLoad,
       .returned 1 homeKey (.error (.plain ("querying delivery records: transport error: " ++
         "reading response body: context canceled"))) true] :=
  ⟨rfl, rfl⟩

/-- The same load where the request itself is cancelled, and one that finds no record. -/
def cancelledLoad : LoadOutcome :=
  deliveryLoad bodyCodec homeRing { cutLookup with exchange := .failed "context canceled" true false }
    homeAudience true

def refusedLoad : LoadOutcome :=
  { err := some (.plain "no delivery record for keyId key-5 at network/node") }

/-- Two callers wait for the one that is cancelled. The first of them is elected, and the second gets
the error of its load. -/
def reelection : List Event :=
  [.call 0 homeKey, .lock 0, .call 1 homeKey, .lock 1, .call 2 homeKey, .lock 2,
   .cancel 0 .canceled, .load 0 cancelledLoad, .store 0, .done 1, .lock 1, .done 2, .lock 2,
   .load 1 refusedLoad, .store 1, .done 2]

theorem honest_reelection : Honest reelection := by
  intro i o e hload hinterrupted herr
  simp only [reelection, List.mem_cons, List.not_mem_nil, or_false, reduceCtorEq, false_or,
    Event.load.injEq] at hload
  rcases hload with ⟨rfl, rfl⟩ | ⟨rfl, rfl⟩
  · obtain rfl := Option.some.inj herr
    rfl
  · cases hinterrupted

theorem waiter_elected :
    log {} reelection = [.loadBegan 0 homeKey, .loadEnded 0 homeKey cancelledLoad,
      .loadBegan 1 homeKey, .loadEnded 1 homeKey refusedLoad,
      .returned 2 homeKey (.error (.plain "no delivery record for keyId key-5 at network/node"))
        true] ∧
    ∀ j o, .loadEnded j homeKey o ∈ log {} reelection →
      o.error = refusedLoad.error → o.interrupted = false := by
  have hlog : log {} reelection = [.loadBegan 0 homeKey, .loadEnded 0 homeKey cancelledLoad,
      .loadBegan 1 homeKey, .loadEnded 1 homeKey refusedLoad,
      .returned 2 homeKey (.error (.plain "no delivery record for keyId key-5 at network/node"))
        true] := rfl
  refine ⟨hlog, ?_⟩
  have hreturned := (single_flight reelection).2.2.2.1 honest_reelection 2 homeKey
    (.plain "no delivery record for keyId key-5 at network/node") (by simp [hlog])
  rcases hreturned with ⟨o, hmem, -⟩ | ⟨-, hother⟩
  · simp [hlog] at hmem
  · exact hother

end Delivery

end Meshd.Control.KeyCache

import Meshd.Dwn.Crypto.Primitives
import Meshd.Framework.Run
import Mathlib.Data.List.Sort

namespace Meshd.Control

open Meshd.Framework Meshd.Dwn.Crypto

/-- An audience record of one tuple, with the members of its payload that `Current` reads. -/
structure AudienceRecord where
  keyID : String
  publicKeyJwk : PublicKeyJWK
  recordID : String
  dateCreated : String
  author : String
deriving DecidableEq

def publicKeyBytesFromJWK (jwk : PublicKeyJWK) : Except String Bytes :=
  if jwk.kty ≠ "OKP" ∨ jwk.crv ≠ "X25519" then
    .error ("unsupported key type " ++ jwk.kty ++ "/" ++ jwk.crv)
  else match Base64.rawURLDecode jwk.x with
    | none => .error "decoding public key: illegal base64 data"
    | some pub =>
      if pub.length ≠ 32 then .error ("invalid X25519 public key length " ++ toString pub.length)
      else .ok pub

/-- The order of `projectCurrentAudience`: the tenant's own records first, then the oldest, then the
lowest record ID. -/
def AudienceRecord.before (tenant : String) (r r' : AudienceRecord) : Bool :=
  if (r.author = tenant) ≠ (r'.author = tenant) then r.author = tenant
  else if r.dateCreated ≠ r'.dateCreated then r.dateCreated < r'.dateCreated
  else r.recordID < r'.recordID

/-- A stable sort, of which the first record counts. -/
def projectCurrentAudience (records : List AudienceRecord) (tenant : String) :
    Option AudienceRecord :=
  (records.insertionSort fun r r' => r'.before tenant r = false).head?

/-- Where a call of `Current` stands: at its query, with an empty answer at its mint, with a record
that is not in the cache yet, or returned. -/
inductive CurrentCall where
  | idle
  | querying
  | minting
  | storing (rec : AudienceRecord)
  | returned (result : Except String (Bytes × String))

/-- The records of one tuple on the server, the source's cache entry for it, and the calls. -/
structure AudienceState where
  stored : List AudienceRecord
  cache : Option AudienceRecord := none
  calls : Nat → CurrentCall := fun _ => .idle

/-- One step of a call. A failed query or mint comes with its error, a failed mint also with whether
the record was stored all the same; the server sees the signer as the author. -/
inductive AudienceEvent where
  | start (i : Nat)
  | answer (i : Nat) (failure : Option String)
  | mint (i : Nat) (rec : AudienceRecord) (signer : String) (failure : Option (String × Bool))
  | store (i : Nat)

namespace AudienceState

def setCall (s : AudienceState) (i : Nat) (call : CurrentCall) : AudienceState :=
  { s with calls := Function.update s.calls i call }

theorem calls_setCall (s : AudienceState) (i j : Nat) (call : CurrentCall) :
    (s.setCall i call).calls j = if j = i then call else s.calls j :=
  Function.update_apply _ _ _ _

/-- `Current` on the record that `current` gave it. -/
def finish (rec : AudienceRecord) : CurrentCall :=
  match publicKeyBytesFromJWK rec.publicKeyJwk with
  | .ok pub => .returned (.ok (pub, rec.keyID))
  | .error e => .returned (.error ("parsing audience public key: " ++ e))

def step (tenant : String) (s : AudienceState) : AudienceEvent → AudienceState
  | .start i =>
    match s.calls i, s.cache with
    | .idle, some rec => s.setCall i (finish rec)
    | .idle, none => s.setCall i .querying
    | _, _ => s
  | .answer i failure =>
    match s.calls i, failure with
    | .querying, some e => s.setCall i (.returned (.error e))
    | .querying, none =>
      match projectCurrentAudience s.stored tenant with
      | none => s.setCall i .minting
      | some rec => s.setCall i (.storing rec)
    | _, _ => s
  | .mint i rec signer failure =>
    match s.calls i, failure with
    | .minting, none =>
      { s with stored := s.stored ++ [{ rec with author := signer }] }.setCall i
        (.storing { rec with author := tenant })
    | .minting, some (e, wasStored) =>
      { s with
        stored := if wasStored then s.stored ++ [{ rec with author := signer }] else s.stored
        }.setCall i (.returned (.error e))
    | _, _ => s
  | .store i =>
    match s.calls i with
    | .storing rec => { s with cache := some rec }.setCall i (finish rec)
    | _ => s

/-- No query finds the tuple empty while another call is at its mint. -/
def Exclusive (s : AudienceState) : AudienceEvent → Prop
  | .answer i failure => s.calls i = .querying → failure = none → s.stored = [] →
    ∀ j, s.calls j ≠ .minting
  | _ => True

/-- The key ID of the current record. -/
def currentKeyID (tenant : String) (s : AudienceState) : Option String :=
  (projectCurrentAudience s.stored tenant).map (·.keyID)

theorem projectCurrentAudience_nil (tenant : String) : projectCurrentAudience [] tenant = none := by
  simp [projectCurrentAudience]

theorem projectCurrentAudience_singleton (rec : AudienceRecord) (tenant : String) :
    projectCurrentAudience [rec] tenant = some rec := by
  simp [projectCurrentAudience]

theorem projectCurrentAudience_eq_none {records : List AudienceRecord} {tenant : String} :
    projectCurrentAudience records tenant = none ↔ records = [] := by
  rw [projectCurrentAudience, List.head?_eq_none_iff, ← List.length_eq_zero_iff,
    List.length_insertionSort, List.length_eq_zero_iff]

/-- Every record in hand is the current one, and where a call is at its mint there is none and no
other call is. -/
structure Agreed (tenant : String) (start s : AudienceState) : Prop where
  stored : s.stored = start.stored ∨ start.stored = [] ∧ ∃ rec, s.stored = [rec]
  cache : ∀ rec, s.cache = some rec → s.currentKeyID tenant = some rec.keyID
  storing : ∀ i rec, s.calls i = .storing rec → s.currentKeyID tenant = some rec.keyID
  returned : ∀ i pub keyID, s.calls i = .returned (.ok (pub, keyID)) →
    s.currentKeyID tenant = some keyID
  minting : ∀ i, s.calls i = .minting → s.stored = [] ∧ ∀ j, s.calls j = .minting → i = j

variable {tenant : String} {start s : AudienceState}

theorem finish_eq_ok {rec : AudienceRecord} {pub : Bytes} {keyID : String}
    (h : finish rec = .returned (.ok (pub, keyID))) : keyID = rec.keyID := by
  rw [finish] at h
  cases hp : publicKeyBytesFromJWK rec.publicKeyJwk with
  | ok pub' =>
    rw [hp] at h
    exact (Prod.mk.inj (Except.ok.inj (CurrentCall.returned.inj h))).2.symm
  | error e =>
    rw [hp] at h
    cases CurrentCall.returned.inj h

/-- A call may go on to anything that names the current key. -/
theorem Agreed.setCall (h : Agreed tenant start s) {i : Nat} {call : CurrentCall}
    (hstoring : ∀ rec, call = .storing rec → s.currentKeyID tenant = some rec.keyID)
    (hreturned : ∀ pub keyID, call = .returned (.ok (pub, keyID)) →
      s.currentKeyID tenant = some keyID)
    (hminting : call = .minting → s.stored = [] ∧ ∀ j, s.calls j ≠ .minting) :
    Agreed tenant start (s.setCall i call) := by
  refine ⟨h.stored, h.cache, fun j rec hj => ?_, fun j pub keyID hj => ?_, fun j hj => ?_⟩
  · rw [calls_setCall] at hj
    split_ifs at hj
    · exact hstoring rec hj
    · exact h.storing j rec hj
  · rw [calls_setCall] at hj
    split_ifs at hj
    · exact hreturned pub keyID hj
    · exact h.returned j pub keyID hj
  · rw [calls_setCall] at hj
    split_ifs at hj with hji
    · refine ⟨(hminting hj).1, fun k hk => ?_⟩
      rw [calls_setCall] at hk
      split_ifs at hk with hki
      · rw [hji, hki]
      · exact absurd hk ((hminting hj).2 k)
    · refine ⟨(h.minting j hj).1, fun k hk => ?_⟩
      rw [calls_setCall] at hk
      split_ifs at hk with hki
      · exact absurd hj ((hminting hk).2 j)
      · exact (h.minting j hj).2 k hk

theorem Agreed.finish (h : Agreed tenant start s) (i : Nat) {rec : AudienceRecord}
    (hrec : s.currentKeyID tenant = some rec.keyID) :
    Agreed tenant start (s.setCall i (finish rec)) := by
  refine h.setCall ?_ (fun pub keyID he => finish_eq_ok he ▸ hrec) ?_
  · intro rec' he
    rw [AudienceState.finish] at he
    split at he
    · cases he
    · cases he
  · intro he
    rw [AudienceState.finish] at he
    split at he
    · cases he
    · cases he

theorem Agreed.fails (h : Agreed tenant start s) (i : Nat) (e : String) :
    Agreed tenant start (s.setCall i (.returned (.error e))) :=
  h.setCall (by simp) (by simp) (by simp)

/-- A call at its mint is the only one with anything in hand. -/
theorem Agreed.append (h : Agreed tenant start s) {i : Nat} (hi : s.calls i = .minting)
    (rec : AudienceRecord) {call : CurrentCall}
    (hstoring : ∀ rec', call = .storing rec' → rec'.keyID = rec.keyID)
    (hreturned : ∀ pub keyID, call ≠ .returned (.ok (pub, keyID))) (hminting : call ≠ .minting) :
    Agreed tenant start ({ s with stored := s.stored ++ [rec] }.setCall i call) := by
  obtain ⟨hempty, honly⟩ := h.minting i hi
  have hnone : ∀ keyID, s.currentKeyID tenant ≠ some keyID := by
    intro keyID hsome
    rw [currentKeyID, hempty, projectCurrentAudience_nil] at hsome
    cases hsome
  have hstart : start.stored = [] := by
    obtain he | ⟨he, -⟩ := h.stored
    · rw [← he, hempty]
    · exact he
  have hnew : ({ s with stored := s.stored ++ [rec] } : AudienceState).currentKeyID tenant =
      some rec.keyID := by
    rw [currentKeyID]
    dsimp only
    rw [hempty, List.nil_append, projectCurrentAudience_singleton]
    rfl
  refine ⟨.inr ⟨hstart, rec, by simp [AudienceState.setCall, hempty]⟩, fun r hr => ?_,
    fun j r hj => ?_, fun j pub keyID hj => ?_, fun j hj => ?_⟩
  · exact absurd (h.cache r hr) (hnone _)
  · rw [calls_setCall] at hj
    split_ifs at hj
    · rw [hstoring r hj]
      exact hnew
    · exact absurd (h.storing j r hj) (hnone _)
  · rw [calls_setCall] at hj
    split_ifs at hj
    · exact absurd hj (hreturned pub keyID)
    · exact absurd (h.returned j pub keyID hj) (hnone _)
  · rw [calls_setCall] at hj
    split_ifs at hj with hji
    · exact absurd hj hminting
    · exact absurd (honly j hj) (Ne.symm hji)

theorem Agreed.cached (h : Agreed tenant start s) {rec : AudienceRecord}
    (hrec : s.currentKeyID tenant = some rec.keyID) :
    Agreed tenant start { s with cache := some rec } := by
  refine ⟨h.stored, fun r hr => ?_, h.storing, h.returned, h.minting⟩
  obtain rfl := Option.some.inj hr
  exact hrec

theorem Agreed.step (h : Agreed tenant start s) {e : AudienceEvent} (he : s.Exclusive e) :
    Agreed tenant start (s.step tenant e) := by
  cases e with
  | start i =>
    unfold AudienceState.step
    dsimp only
    split
    · rename_i rec _ hc
      exact h.finish i (h.cache rec hc)
    · exact h.setCall (by simp) (by simp) (by simp)
    · exact h
  | answer i failure =>
    unfold AudienceState.step
    dsimp only
    split
    · exact h.fails i _
    · rename_i hi
      cases hp : projectCurrentAudience s.stored tenant with
      | none =>
        have hempty := projectCurrentAudience_eq_none.mp hp
        exact h.setCall (by simp) (by simp) fun _ => ⟨hempty, he hi rfl hempty⟩
      | some rec =>
        refine h.setCall (fun r hr => ?_) (by simp) (by simp)
        rw [currentKeyID, hp, ← CurrentCall.storing.inj hr]
        rfl
    · exact h
  | mint i rec signer failure =>
    unfold AudienceState.step
    dsimp only
    split
    · rename_i hi
      refine h.append hi _ (fun r hr => ?_) (by simp) (by simp)
      rw [← CurrentCall.storing.inj hr]
    · rename_i e wasStored hi
      cases wasStored with
      | true => exact h.append hi _ (by simp) (by simp) (by simp)
      | false => exact h.fails i e
    · exact h
  | store i =>
    unfold AudienceState.step
    dsimp only
    split
    · rename_i rec hi
      exact (h.cached (h.storing i rec hi)).finish i (h.storing i rec hi)
    · exact h

/-- In a run where no query finds the tuple empty during another call's mint, all calls that succeed
return one key ID, and at most one record is written. -/
theorem current_agrees (hcache : s.cache = none) (hidle : ∀ i, s.calls i = .idle)
    {es : List AudienceEvent} (h : Along (step tenant) Exclusive s es) :
    (∀ i j pub pub' keyID keyID',
      (exec (step tenant) s es).calls i = .returned (.ok (pub, keyID)) →
      (exec (step tenant) s es).calls j = .returned (.ok (pub', keyID')) → keyID = keyID') ∧
    ((exec (step tenant) s es).stored = s.stored ∨
      ∃ rec, (exec (step tenant) s es).stored = s.stored ++ [rec]) := by
  have hstart : Agreed tenant s s :=
    ⟨.inl rfl, by simp [hcache], by simp [hidle], by simp [hidle], by simp [hidle]⟩
  have hrun : Agreed tenant s (exec (step tenant) s es) :=
    along_history (P := fun _ t => Agreed tenant s t) hstart (fun _ _ he ih => ih.step he) es h
  refine ⟨fun i j pub pub' keyID keyID' hi hj => ?_, ?_⟩
  · exact Option.some.inj ((hrun.returned i pub keyID hi).symm.trans (hrun.returned j pub' keyID' hj))
  · obtain hsame | ⟨hempty, rec, hone⟩ := hrun.stored
    · exact .inl hsame
    · exact .inr ⟨rec, by rw [hone, hempty, List.nil_append]⟩

/-- A tuple with no audience record yet. -/
def emptyTuple : AudienceState where
  stored := []

def freshKey (byte : UInt8) (keyID : String) : AudienceRecord where
  keyID := keyID
  publicKeyJwk := ⟨"OKP", "X25519", Base64.rawURLEncode (List.replicate 32 byte)⟩
  recordID := "bafy-" ++ keyID
  dateCreated := "2026-01-01T00:00:00.000000Z"
  author := ""

/-- One call mints, and a later one finds the key in the cache. -/
def mintThenRead : List AudienceEvent :=
  [.start 1, .answer 1 none, .mint 1 (freshKey 7 "key-1") "did:dht:owner" none, .store 1, .start 2]

theorem current_agrees_later :
    (exec (step "did:dht:owner") emptyTuple mintThenRead).calls 2 =
      .returned (.ok (List.replicate 32 7, "key-1")) ∧
    ∀ pub keyID, (exec (step "did:dht:owner") emptyTuple mintThenRead).calls 1 =
      .returned (.ok (pub, keyID)) → keyID = "key-1" := by
  have hread : (exec (step "did:dht:owner") emptyTuple mintThenRead).calls 2 =
      .returned (.ok (List.replicate 32 7, "key-1")) := by rfl
  have hexcl : Along (step "did:dht:owner") Exclusive emptyTuple mintThenRead := by
    refine along_cons.mpr ⟨trivial, along_cons.mpr ⟨fun _ _ _ j => ?_, along_cons.mpr ⟨trivial,
      along_cons.mpr ⟨trivial, along_cons.mpr ⟨trivial, along_nil⟩⟩⟩⟩⟩
    change (emptyTuple.setCall 1 .querying).calls j ≠ .minting
    rw [calls_setCall]
    split_ifs
    · simp
    · simp [emptyTuple]
  exact ⟨hread, fun pub keyID h =>
    (current_agrees rfl (fun _ => rfl) hexcl).1 1 2 pub _ keyID "key-1" h hread⟩

/-- Two calls are both at their query before either has minted. -/
def mintTwice : List AudienceEvent :=
  [.start 1, .start 2, .answer 1 none, .answer 2 none,
    .mint 1 (freshKey 7 "key-1") "did:dht:owner" none,
    .mint 2 (freshKey 8 "key-2") "did:dht:owner" none, .store 1, .store 2]

/-- They mint a key each. -/
theorem current_mints_two :
    (exec (step "did:dht:owner") emptyTuple mintTwice).stored.map (·.keyID) = ["key-1", "key-2"] ∧
    (exec (step "did:dht:owner") emptyTuple mintTwice).calls 1 =
      .returned (.ok (List.replicate 32 7, "key-1")) ∧
    (exec (step "did:dht:owner") emptyTuple mintTwice).calls 2 =
      .returned (.ok (List.replicate 32 8, "key-2")) := ⟨by rfl, by rfl, by rfl⟩

end AudienceState

end Meshd.Control

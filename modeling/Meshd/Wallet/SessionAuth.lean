import Meshd.Dwn.PermissionGrants

namespace Meshd.Wallet

open Meshd.Framework Meshd.Dwn

/-! The grant that a wallet session invokes for a message. -/

/-- The members of a wallet session that its authorization reads. -/
structure WalletSession where
  ownerDID : String := ""
  connectedDID : String := ""
  delegateDID : String := ""
  nodeDID : String
  grants : List Bytes := []

structure IdentityMetadata where
  ownerDID : String
  delegateDID : String := ""
  nodeDID : String

def WalletSession.effectiveOwnerDID (session : WalletSession) : String :=
  if session.ownerDID ≠ "" then session.ownerDID else session.connectedDID

def walletSessionGrantGranteeDID (session : WalletSession) (metadata : IdentityMetadata) :
    String × Bool :=
  let delegateDID := firstNonEmpty [session.delegateDID, metadata.delegateDID]
  if delegateDID ≠ "" then (delegateDID, true)
  else (firstNonEmpty [session.nodeDID, metadata.nodeDID], false)

/-- The grants with what the clock reads when each is looked at. -/
def timed (clock : Nat → Time) (grants : List Bytes) : List (Bytes × Time) :=
  grants.mapIdx fun i raw => (raw, clock i)

/-- The request for a grant of the session. -/
def sessionMatch (session : WalletSession) (metadata : IdentityMetadata)
    (messageType : DwnInterface) (protocolURI protocolPath contextID : String) (now : Time) :
    PermissionGrantMatch :=
  { grantor := firstNonEmpty [session.effectiveOwnerDID, metadata.ownerDID]
    grantee := (walletSessionGrantGranteeDID session metadata).1
    messageType, protocol := protocolURI, protocolPath, contextID, now }

/-- `first` and `second` are the clock in the two searches. -/
def walletSessionAuth (reader : GrantReader) (now : Time) (first second : Nat → Time)
    (session : Option WalletSession) (metadata : IdentityMetadata) (messageType : DwnInterface)
    (protocolURI protocolPath contextID : String) : MessageAuth :=
  match session with
  | none => {}
  | some session =>
    let m := sessionMatch session metadata messageType protocolURI protocolPath contextID now
    let delegated := (findDelegatedGrant reader (timed first session.grants) m).1
    if delegated ≠ [] then { delegatedGrant := delegated }
    else { permissionGrantID := findPermissionGrantID reader (timed second session.grants) m }

/-- The session's authorization is the delegated grant that is found, or else the plain one. -/
theorem walletSessionAuth_cases (reader : GrantReader) (now : Time) (first second : Nat → Time)
    (session : WalletSession) (metadata : IdentityMetadata) (messageType : DwnInterface)
    (protocolURI protocolPath contextID : String) :
    let m := sessionMatch session metadata messageType protocolURI protocolPath contextID now
    let delegated := (findDelegatedGrant reader (timed first session.grants) m).1
    let auth := walletSessionAuth reader now first second (some session) metadata messageType
      protocolURI protocolPath contextID
    (delegated ≠ [] ∧ auth = { delegatedGrant := delegated }) ∨
    (delegated = [] ∧ auth =
      { permissionGrantID := findPermissionGrantID reader (timed second session.grants) m }) := by
  intro m delegated auth
  by_cases h : delegated = []
  · exact .inr ⟨h, if_neg (not_not.mpr h)⟩
  · exact .inl ⟨h, if_pos h⟩

/-- Both searches agree with the one relation of what may be invoked, whatever else is in the list,
and a session invokes a plain grant only where no delegated one may be. -/
theorem grant_selection (reader : GrantReader) :
    (∀ (rawGrants : List (Bytes × Time)) (m : PermissionGrantMatch),
      ((findDelegatedGrant reader rawGrants m).1 ≠ [] ↔
        ∃ entry ∈ rawGrants, ∃ grant, Usable reader m (·.delegated) entry grant) ∧
      ((findDelegatedGrant reader rawGrants m).1 ≠ [] →
        ∃ entry ∈ rawGrants, ∃ grant, Usable reader m (·.delegated) entry grant ∧
          findDelegatedGrant reader rawGrants m = (entry.1, some grant) ∧
          ((∃ entry ∈ rawGrants, ∃ grant, Usable reader m (·.delegated) entry grant ∧
            exactScope m grant = true) → exactScope m grant = true)) ∧
      (findPermissionGrantID reader rawGrants m ≠ "" ↔
        ∃ entry ∈ rawGrants, ∃ grant, Usable reader m (isPlain m) entry grant) ∧
      (findPermissionGrantID reader rawGrants m ≠ "" →
        ∃ entry ∈ rawGrants, ∃ grant, Usable reader m (isPlain m) entry grant ∧
          grant.id = findPermissionGrantID reader rawGrants m ∧
          ((∃ entry ∈ rawGrants, ∃ grant, Usable reader m (isPlain m) entry grant ∧
            exactScope m grant = true) → exactScope m grant = true))) ∧
    (∀ (before useless after : List (Bytes × Time)) (m : PermissionGrantMatch),
      ((∀ entry ∈ useless, ∀ grant, ¬ Usable reader m (·.delegated) entry grant) →
        findDelegatedGrant reader (before ++ useless ++ after) m =
          findDelegatedGrant reader (before ++ after) m) ∧
      ((∀ entry ∈ useless, ∀ grant, ¬ Usable reader m (isPlain m) entry grant) →
        findPermissionGrantID reader (before ++ useless ++ after) m =
          findPermissionGrantID reader (before ++ after) m)) ∧
    (∀ (now : Time) (first second : Nat → Time) (session : Option WalletSession)
      (metadata : IdentityMetadata) (messageType : DwnInterface)
      (protocolURI protocolPath contextID : String),
      let auth := walletSessionAuth reader now first second session metadata messageType protocolURI
        protocolPath contextID
      (auth.permissionGrantID = "" ∨ auth.delegatedGrant = []) ∧
      (auth.permissionGrantID ≠ "" → ∃ s, session = some s ∧
        ¬ ∃ entry ∈ timed first s.grants, ∃ grant, Usable reader
          (sessionMatch s metadata messageType protocolURI protocolPath contextID now)
          (·.delegated) entry grant)) := by
  refine ⟨fun rawGrants m => ?_, fun before useless after m => ?_, ?_⟩
  · obtain ⟨hdelegated, hfound⟩ := findDelegatedGrant_spec reader m rawGrants
    obtain ⟨hplain, hid⟩ := findPermissionGrantID_spec reader m rawGrants
    exact ⟨hdelegated, hfound, hplain, hid⟩
  · refine ⟨fun h => ?_, fun h => ?_⟩
    · rw [findDelegatedGrant_eq, findDelegatedGrant_eq, candidates_insert h]
    · rw [findPermissionGrantID_eq, findPermissionGrantID_eq, candidates_insert h]
  · intro now first second session metadata messageType protocolURI protocolPath contextID auth
    cases session with
    | none => exact ⟨.inl rfl, fun h => absurd rfl h⟩
    | some session =>
      rcases walletSessionAuth_cases reader now first second session metadata messageType
        protocolURI protocolPath contextID with ⟨-, hauth⟩ | ⟨hnil, hauth⟩
      · have hid : auth.permissionGrantID = "" := congrArg MessageAuth.permissionGrantID hauth
        exact ⟨.inl hid, fun h => absurd hid h⟩
      · refine ⟨.inr (congrArg MessageAuth.delegatedGrant hauth), fun _ => ⟨session, rfl, ?_⟩⟩
        rintro ⟨entry, hentry, grant, husable⟩
        exact (findDelegatedGrant_spec reader _ _).1.mpr ⟨entry, hentry, grant, husable⟩ hnil

/-- Delegated grants to write, of which that with the message `[1]` ends at the time 5. -/
def writeGrants : GrantReader where
  message raw :=
    if raw = [] then .error "unexpected end of JSON input"
    else .ok ⟨"grant", Base64.rawURLEncode raw, "did:jwk:delegate", "",
      some ⟨"", [⟨Base64.rawURLEncode [0], ""⟩]⟩⟩
  data raw := .ok ⟨if raw = [1] then "early" else "late", true, ⟨"Records", "Write", "", "", ""⟩⟩
  kid _ := .ok "did:dht:owner#0"
  time text := if text = "early" then some 5 else some 10
  message_nil _ h := by cases h

def writeMatch : PermissionGrantMatch :=
  ⟨"did:dht:owner", "did:jwk:delegate", interfaceRecordsWrite, "mesh", "network", "", 0, false⟩

/-- At the time 7 the grant that has ended is passed over. -/
theorem grant_selection_active :
    ∃ grant, Usable writeGrants writeMatch (·.delegated) ([2], 7) grant ∧
      findDelegatedGrant writeGrants [([1], 7), ([2], 7)] writeMatch = ([2], some grant) := by
  have hfirst : (findDelegatedGrant writeGrants [([1], 7), ([2], 7)] writeMatch).1 = [2] := by
    decide +kernel
  obtain ⟨entry, hentry, grant, husable, hfound, -⟩ :=
    ((grant_selection writeGrants).1 [([1], 7), ([2], 7)] writeMatch).2.1 (by rw [hfirst]; decide)
  rw [hfound] at hfirst ⊢
  simp only [List.mem_cons, List.not_mem_nil, or_false] at hentry
  rcases hentry with rfl | rfl
  · cases hfirst
  · exact ⟨grant, husable, rfl⟩

end Meshd.Wallet

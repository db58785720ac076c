import Mathlib.Data.List.Induction
import Meshd.Framework.Base64
import Meshd.Framework.Fallible
import Meshd.Framework.Go
import Meshd.Framework.Json

namespace Meshd.Wallet.Connect

open Meshd.Framework

/-! The grants of a connect response. -/

def permissionsProtocolURI : String := "https://identity.foundation/dwn/permissions"

structure PermissionScope where
  interface : String
  method : String
  protocol : String := ""
  contextID : String := ""
  protocolPath : String := ""

/-- The scopes of one request; its protocol definition is for the wallet only. -/
structure ConnectPermissionRequest where
  permissionScopes : List PermissionScope

structure SessionRevocation where
  grantID : String
  revocationGrantID : String

/-- What `parseGrant` reads of a message, with the protected headers of the signatures. -/
structure ConnectMessage where
  recordID : String
  recipient : String
  encodedData : String
  signatures : List String

/-- What it reads of the data; without a scope the map is nil. -/
structure ConnectData where
  dateExpires : String
  delegated : Bool
  scope : Option (List (String × Json))

/-- `json.Unmarshal` into the members of a message, of its data and of a protected header. -/
structure ConnectReader where
  message : Bytes → Except String ConnectMessage
  data : Bytes → Except String ConnectData
  kid : Bytes → Except String String

structure ParsedGrant where
  id : String
  grantee : String
  scope : List (String × Json)
  delegated : Bool

variable (reader : ConnectReader)

def checkGrantSigner (signatures : List String) : Except String Unit :=
  match signatures with
  | [] => .error "permission grant message is missing authorization (unable to extract grantor)"
  | protectedHeader :: _ =>
    match Base64.rawURLDecode protectedHeader with
    | none => .error "decoding grant signature protected header: illegal base64 data"
    | some protectedJSON => do
      let kid ← (reader.kid protectedJSON).mapError ("parsing grant signature protected header: " ++ ·)
      if kid = "" then
        .error "permission grant message is missing authorization (unable to extract grantor)"
      else .ok ()

def parseGrant (raw : Bytes) : Except String ParsedGrant := do
  let msg ← (reader.message raw).mapError ("parsing grant message: " ++ ·)
  if msg.encodedData = "" then .error "permission grant message is missing encodedData"
  else
    checkGrantSigner reader msg.signatures
    if msg.recipient = "" then
      .error "permission grant message is missing descriptor.recipient (grantee)"
    else match Base64.rawURLDecode msg.encodedData with
      | none => .error "decoding grant encodedData: illegal base64 data"
      | some dataJSON =>
        let data ← (reader.data dataJSON).mapError ("parsing grant data: " ++ ·)
        match data.scope with
        | none => .error "permission grant data is missing required property `scope`"
        | some scope =>
          if data.dateExpires = "" then
            .error "permission grant data is missing required property `dateExpires`"
          else
            .ok { id := msg.recordID, grantee := msg.recipient, scope, delegated := data.delegated }

/-- An `any` from a map is the given text. -/
def isText (value : Option Json) (text : String) : Bool := value.bind Json.asString = some text

/-- Of several revocations with one grant the last counts. -/
def revokedGrantIDs (revocations : List SessionRevocation) : GoMap String :=
  revocations.foldl (fun ids revocation => ids.insert revocation.revocationGrantID revocation.grantID) ∅

def isSessionRevocationGrant (grant : ParsedGrant) (revoked : GoMap String) : Bool :=
  match revoked.lookup grant.id with
  | none => false
  | some revokedGrantID =>
    isText (Json.field "interface" grant.scope) "Records" &&
    isText (Json.field "method" grant.scope) "Write" &&
    isText (Json.field "protocol" grant.scope) permissionsProtocolURI &&
    isText (Json.field "contextId" grant.scope) revokedGrantID

/-- A scope as a map, without the members that are empty: all values are texts. -/
def PermissionScope.toMap (scope : PermissionScope) : List (String × String) :=
  [("interface", scope.interface), ("method", scope.method)] ++
  (if scope.protocol = "" then [] else [("protocol", scope.protocol)]) ++
  (if scope.contextID = "" then [] else [("contextId", scope.contextID)]) ++
  (if scope.protocolPath = "" then [] else [("protocolPath", scope.protocolPath)])

def requestedScopeMaps (requested : List ConnectPermissionRequest) : List (List (String × String)) :=
  requested.flatMap fun request => request.permissionScopes.map PermissionScope.toMap

/-- `reflect.DeepEqual` of a member; a missing one is nil, as `null` is. -/
def sameMember (key : String) (grantScope : List (String × Json))
    (requestedScope : List (String × String)) : Bool :=
  match requestedScope.lookup key with
  | some value => isText (Json.field key grantScope) value
  | none =>
    match Json.field key grantScope with
    | none | some .null => true
    | some _ => false

def isScopeSubset (grantScope : List (String × Json)) (requestedScope : List (String × String)) :
    Bool :=
  if !sameMember "interface" grantScope requestedScope ||
      !sameMember "method" grantScope requestedScope then false
  else requestedScope.all fun (key, value) => isText (Json.field key grantScope) value

def isRequestedScope (grantScope : List (String × Json))
    (requestedScopes : List (List (String × String))) : Bool :=
  requestedScopes.any (isScopeSubset grantScope)

/-- The loop of `validateGrants`. -/
def validateEach (delegateDID : String) (requestedScopes : List (List (String × String)))
    (revoked : GoMap String) : List Bytes → Except String Unit
  | [] => .ok ()
  | raw :: rest => do
    let grant ← parseGrant reader raw
    if grant.grantee ≠ delegateDID then
      .error ("wallet returned a grant for " ++ grant.grantee.quote ++ ", but the delegate DID is " ++
        delegateDID.quote ++ "; revoke the approved session in your wallet")
    else if isSessionRevocationGrant grant revoked then
      validateEach delegateDID requestedScopes revoked rest
    else if !isRequestedScope grant.scope requestedScopes then
      .error ("wallet returned a grant outside the requested permission scope; revoke the approved " ++
        "session in your wallet")
    else validateEach delegateDID requestedScopes revoked rest

def validateGrants (grants : List Bytes) (delegateDID : String)
    (requested : List ConnectPermissionRequest) (revocations : List SessionRevocation) :
    Except String Unit :=
  validateEach reader delegateDID (requestedScopeMaps requested) (revokedGrantIDs revocations) grants

/-! ### What an accepted grant has passed -/

variable {reader}

theorem isText_iff {value : Option Json} {text : String} :
    isText value text = true ↔ value = some (.str text) := by
  cases value with
  | none => simp [isText]
  | some v => cases v <;> simp [isText, Json.asString]

/-- The granted scope is the requested one or narrower. -/
structure Narrows (grantScope : List (String × Json)) (requested : PermissionScope) : Prop where
  interface : Json.field "interface" grantScope = some (.str requested.interface)
  method : Json.field "method" grantScope = some (.str requested.method)
  protocol : requested.protocol = "" ∨
    Json.field "protocol" grantScope = some (.str requested.protocol)
  contextID : requested.contextID = "" ∨
    Json.field "contextId" grantScope = some (.str requested.contextID)
  protocolPath : requested.protocolPath = "" ∨
    Json.field "protocolPath" grantScope = some (.str requested.protocolPath)

/-- The scope is that of a revocation of the grant with the ID. -/
structure Revokes (grantScope : List (String × Json)) (id : String) : Prop where
  interface : Json.field "interface" grantScope = some (.str "Records")
  method : Json.field "method" grantScope = some (.str "Write")
  protocol : Json.field "protocol" grantScope = some (.str permissionsProtocolURI)
  contextID : Json.field "contextId" grantScope = some (.str id)

/-- An optional member of a requested scope. -/
theorem all_optional {grantScope : List (String × Json)} {key value : String} :
    ((if value = "" then [] else [(key, value)]).all fun (key, value) =>
      isText (Json.field key grantScope) value) = true ↔
      value = "" ∨ Json.field key grantScope = some (.str value) := by
  split_ifs with h
  · simp [h]
  · simp [h, isText_iff]

theorem isScopeSubset_toMap {grantScope : List (String × Json)} {requested : PermissionScope} :
    isScopeSubset grantScope requested.toMap = true ↔ Narrows grantScope requested := by
  have hinterface : sameMember "interface" grantScope requested.toMap =
      isText (Json.field "interface" grantScope) requested.interface := rfl
  have hmethod : sameMember "method" grantScope requested.toMap =
      isText (Json.field "method" grantScope) requested.method := rfl
  have hall : (requested.toMap.all fun (key, value) => isText (Json.field key grantScope) value) =
      true ↔ Narrows grantScope requested := by
    simp only [PermissionScope.toMap, List.all_append, List.all_cons, List.all_nil, Bool.and_eq_true,
      isText_iff, Bool.and_true, and_assoc, all_optional]
    exact ⟨fun ⟨h1, h2, h3, h4, h5⟩ => ⟨h1, h2, h3, h4, h5⟩,
      fun h => ⟨h.interface, h.method, h.protocol, h.contextID, h.protocolPath⟩⟩
  rw [isScopeSubset, hinterface, hmethod, ← hall]
  constructor
  · intro h
    split_ifs at h
    exact h
  · intro h
    rw [if_neg, h]
    simp [isText_iff.mpr (hall.mp h).interface, isText_iff.mpr (hall.mp h).method]

theorem isRequestedScope_iff {grantScope : List (String × Json)}
    {requested : List ConnectPermissionRequest} :
    isRequestedScope grantScope (requestedScopeMaps requested) = true ↔
      ∃ request ∈ requested, ∃ scope ∈ request.permissionScopes, Narrows grantScope scope := by
  simp only [isRequestedScope, requestedScopeMaps, List.any_flatMap, List.any_map, List.any_eq_true,
    Function.comp_apply, isScopeSubset_toMap]

theorem isSessionRevocationGrant_iff {grant : ParsedGrant} {revoked : GoMap String} :
    isSessionRevocationGrant grant revoked = true ↔
      ∃ id, revoked.lookup grant.id = some id ∧ Revokes grant.scope id := by
  rw [isSessionRevocationGrant]
  cases revoked.lookup grant.id with
  | none => simp
  | some id =>
    simp only [Bool.and_eq_true, isText_iff, Option.some.injEq, exists_eq_left', and_assoc]
    exact ⟨fun ⟨h1, h2, h3, h4⟩ => ⟨h1, h2, h3, h4⟩,
      fun h => ⟨h.interface, h.method, h.protocol, h.contextID⟩⟩

theorem validateEach_eq_ok {delegateDID : String} {scopes : List (List (String × String))}
    {revoked : GoMap String} {grants : List Bytes} :
    validateEach reader delegateDID scopes revoked grants = .ok () ↔
      ∀ raw ∈ grants, ∃ grant, parseGrant reader raw = .ok grant ∧ grant.grantee = delegateDID ∧
        (isSessionRevocationGrant grant revoked = true ∨
          isRequestedScope grant.scope scopes = true) := by
  induction grants with
  | nil => simp [validateEach]
  | cons raw rest ih =>
    rw [validateEach, bind_eq_ok, List.forall_mem_cons, ← ih]
    constructor
    · rintro ⟨grant, hparsed, hrest⟩
      rw [ite_error_eq_ok, not_not] at hrest
      obtain ⟨hgrantee, hrest⟩ := hrest
      split_ifs at hrest with hrevocation hrequested
      · exact ⟨⟨grant, hparsed, hgrantee, .inl hrevocation⟩, hrest⟩
      · exact ⟨⟨grant, hparsed, hgrantee, .inr (by simpa using hrequested)⟩, hrest⟩
    · rintro ⟨⟨grant, hparsed, hgrantee, hscope⟩, hrest⟩
      refine ⟨grant, hparsed, ?_⟩
      rw [if_neg (not_not.mpr hgrantee)]
      rcases hscope with hrevocation | hrequested
      · rw [if_pos hrevocation, hrest]
      · rw [hrequested, Bool.not_true, if_neg Bool.false_ne_true, hrest, ite_self]

variable (reader) in
/-- Another grant of the response than the one at the index has the ID. -/
def OtherGrant (grants : List Bytes) (i : Nat) (id : String) : Prop :=
  id ≠ "" ∧ ∃ j ≠ i, ∃ raw other, grants[j]? = some raw ∧ parseGrant reader raw = .ok other ∧
    other.id = id

/-- The scope is a narrowing of a requested one. -/
def Requested (requested : List ConnectPermissionRequest) (scope : List (String × Json)) : Prop :=
  ∃ request ∈ requested, ∃ asked ∈ request.permissionScopes, Narrows scope asked

/-- The last of the pairs with the revocation is that with the grant `id`. -/
def LastPair (revocations : List SessionRevocation) (revocationID id : String) : Prop :=
  ∃ earlier later, revocations = earlier ++ ⟨id, revocationID⟩ :: later ∧
    ∀ pair ∈ later, pair.revocationGrantID ≠ revocationID

theorem lookup_revokedGrantIDs {revocations : List SessionRevocation} {revocationID id : String}
    (h : (revokedGrantIDs revocations).lookup revocationID = some id) :
    LastPair revocations revocationID id := by
  induction revocations using List.reverseRecOn with
  | nil => simp [revokedGrantIDs] at h
  | append_singleton pairs pair ih =>
    rw [revokedGrantIDs, List.foldl_append, List.foldl_cons, List.foldl_nil] at h
    by_cases hid : revocationID = pair.revocationGrantID
    · rw [hid, AList.lookup_insert] at h
      obtain rfl := Option.some.inj h
      exact ⟨pairs, [], by rw [hid], by simp⟩
    · rw [AList.lookup_insert_ne hid] at h
      obtain ⟨earlier, later, rfl, hlater⟩ := ih h
      refine ⟨earlier, later ++ [pair], by simp, fun other hother => ?_⟩
      rcases List.mem_append.mp hother with hother | hother
      · exact hlater other hother
      · exact List.mem_singleton.mp hother ▸ Ne.symm hid

/-- Every grant of an accepted response is for the delegate, within what was requested or a
revocation of the grant that the response's own list pairs it with. That this grant is another one of
the response has to come from the list, for those outside the request. -/
theorem connect_authority_iff {grants : List Bytes} {delegateDID : String}
    {requested : List ConnectPermissionRequest} {revocations : List SessionRevocation}
    (h : validateGrants reader grants delegateDID requested revocations = .ok ()) :
    (∀ raw ∈ grants, ∃ grant, parseGrant reader raw = .ok grant ∧ grant.grantee = delegateDID ∧
      (Requested requested grant.scope ∨
        ∃ id, LastPair revocations grant.id id ∧ Revokes grant.scope id)) ∧
    ((∀ i raw, grants[i]? = some raw → ∃ grant, parseGrant reader raw = .ok grant ∧
      grant.grantee = delegateDID ∧ (Requested requested grant.scope ∨
        ∃ id, OtherGrant reader grants i id ∧ Revokes grant.scope id)) ↔
    (∀ i raw grant id, grants[i]? = some raw → parseGrant reader raw = .ok grant →
      ¬ Requested requested grant.scope → (revokedGrantIDs revocations).lookup grant.id = some id →
      OtherGrant reader grants i id)) := by
  have haccepted := validateEach_eq_ok.mp h
  refine ⟨fun raw hraw => ?_, ?_, ?_⟩
  · obtain ⟨grant, hparsed, hgrantee, hpassed⟩ := haccepted raw hraw
    refine ⟨grant, hparsed, hgrantee, hpassed.symm.imp isRequestedScope_iff.mp fun hrevocation => ?_⟩
    obtain ⟨id, hid, hrevokes⟩ := isSessionRevocationGrant_iff.mp hrevocation
    exact ⟨id, lookup_revokedGrantIDs hid, hrevokes⟩
  · intro hclaim i raw grant id hi hparsed houtside hid
    obtain ⟨parsed, hparsed', -, hscope⟩ := hclaim i raw hi
    obtain rfl := Except.ok.inj (hparsed.symm.trans hparsed')
    obtain ⟨id', hother, hrevokes⟩ := hscope.resolve_left houtside
    -- the pairing that exempted the grant names the same context
    obtain ⟨parsed, hparsed', -, hpassed⟩ := haccepted raw (List.mem_of_getElem? hi)
    obtain rfl := Except.ok.inj (hparsed.symm.trans hparsed')
    obtain ⟨id'', hid'', hrevokes'⟩ := isSessionRevocationGrant_iff.mp
      (hpassed.resolve_right fun hreq => houtside (isRequestedScope_iff.mp hreq))
    obtain rfl := Option.some.inj (hid.symm.trans hid'')
    have hcontext := hrevokes.contextID.symm.trans hrevokes'.contextID
    obtain rfl : id' = id := by simpa using hcontext
    exact hother
  · intro hnamed i raw hi
    obtain ⟨grant, hparsed, hgrantee, hpassed⟩ := haccepted raw (List.mem_of_getElem? hi)
    refine ⟨grant, hparsed, hgrantee, ?_⟩
    by_cases hreq : Requested requested grant.scope
    · exact .inl hreq
    · obtain ⟨id, hid, hrevokes⟩ := isSessionRevocationGrant_iff.mp
        (hpassed.resolve_right fun h => hreq (isRequestedScope_iff.mp h))
      exact .inr ⟨id, hnamed i raw grant id hi hparsed hreq hid, hrevokes⟩

/-- Messages with one byte: a grant to read, and the revocation of the grant "session". -/
def plainReader : ConnectReader where
  message raw :=
    match raw with
    | [0] => .ok ⟨"session", "did:jwk:delegate", Base64.rawURLEncode [0], [Base64.rawURLEncode [0]]⟩
    | [1] => .ok ⟨"revocation", "did:jwk:delegate", Base64.rawURLEncode [1], [Base64.rawURLEncode [0]]⟩
    | _ => .error "unexpected end of JSON input"
  data raw :=
    match raw with
    | [0] => .ok ⟨"2026-06-01T00:00:00Z", true,
        some [("interface", .str "Records"), ("method", .str "Read"), ("protocol", .str "mesh")]⟩
    | _ => .ok ⟨"2026-06-01T00:00:00Z", true,
        some [("interface", .str "Records"), ("method", .str "Write"),
          ("protocol", .str permissionsProtocolURI), ("contextId", .str "session")]⟩
  kid _ := .ok "did:jwk:wallet#0"

/-- The request to read. -/
def readRequest : List ConnectPermissionRequest :=
  [⟨[{ interface := "Records", method := "Read", protocol := "mesh" }]⟩]

/-- The pairing of the two grants. -/
def sessionPair : List SessionRevocation := [⟨"session", "revocation"⟩]

theorem parseGrant_plainReader_zero : parseGrant plainReader [0] = .ok
    ⟨"session", "did:jwk:delegate",
      [("interface", .str "Records"), ("method", .str "Read"), ("protocol", .str "mesh")], true⟩ := by
  have hne : Base64.rawURLEncode [0] ≠ "" := by decide
  simp [parseGrant, plainReader, checkGrantSigner, hne]

theorem parseGrant_plainReader_one : parseGrant plainReader [1] = .ok
    ⟨"revocation", "did:jwk:delegate", [("interface", .str "Records"), ("method", .str "Write"),
      ("protocol", .str permissionsProtocolURI), ("contextId", .str "session")], true⟩ := by
  have hne : Base64.rawURLEncode [1] ≠ "" := by decide
  simp [parseGrant, plainReader, checkGrantSigner, hne]

theorem lookup_sessionPair : (revokedGrantIDs sessionPair).lookup "revocation" = some "session" := by
  rw [revokedGrantIDs, sessionPair, List.foldl_cons, List.foldl_nil, AList.lookup_insert]

theorem isSessionRevocationGrant_sessionPair {grantee : String} {delegated : Bool} :
    isSessionRevocationGrant ⟨"revocation", grantee, [("interface", .str "Records"),
      ("method", .str "Write"), ("protocol", .str permissionsProtocolURI),
      ("contextId", .str "session")], delegated⟩ (revokedGrantIDs sessionPair) = true :=
  isSessionRevocationGrant_iff.mpr ⟨"session", lookup_sessionPair, rfl, rfl, rfl, rfl⟩

theorem requested_readRequest : Requested readRequest
    [("interface", .str "Records"), ("method", .str "Read"), ("protocol", .str "mesh")] :=
  ⟨_, List.mem_cons_self, _, List.mem_cons_self, rfl, rfl, .inr rfl, .inl rfl, .inl rfl⟩

/-- The grant and its revocation in one response. -/
theorem connect_authority_session :
    validateGrants plainReader [[0], [1]] "did:jwk:delegate" readRequest sessionPair = .ok () ∧
    ∀ i raw, [[0], [1]][i]? = some raw → ∃ grant, parseGrant plainReader raw = .ok grant ∧
      grant.grantee = "did:jwk:delegate" ∧ (Requested readRequest grant.scope ∨
        ∃ id, OtherGrant plainReader [[0], [1]] i id ∧ Revokes grant.scope id) := by
  have haccepted :
      validateGrants plainReader [[0], [1]] "did:jwk:delegate" readRequest sessionPair = .ok () := by
    refine validateEach_eq_ok.mpr ?_
    simp only [List.forall_mem_cons, List.not_mem_nil, false_imp_iff, implies_true, and_true]
    exact ⟨⟨_, parseGrant_plainReader_zero, rfl,
        .inr (isRequestedScope_iff.mpr requested_readRequest)⟩,
      ⟨_, parseGrant_plainReader_one, rfl, .inl isSessionRevocationGrant_sessionPair⟩⟩
  refine ⟨haccepted, (connect_authority_iff haccepted).2.mpr ?_⟩
  intro i raw grant id hi hparsed houtside hid
  match i, hi with
  | 0, hi =>
    obtain rfl := Option.some.inj hi
    obtain rfl := Except.ok.inj (parseGrant_plainReader_zero.symm.trans hparsed)
    exact absurd requested_readRequest houtside
  | 1, hi =>
    obtain rfl := Option.some.inj hi
    obtain rfl := Except.ok.inj (parseGrant_plainReader_one.symm.trans hparsed)
    obtain rfl := Option.some.inj (lookup_sessionPair.symm.trans hid)
    exact ⟨by decide, 0, by decide, [0], _, rfl, parseGrant_plainReader_zero, rfl⟩

/-- The revocation alone: it is for a grant that the response does not have. -/
theorem connect_authority_smuggled :
    validateGrants plainReader [[1]] "did:jwk:delegate" readRequest sessionPair = .ok () ∧
    ¬ ∀ i raw, [[1]][i]? = some raw → ∃ grant, parseGrant plainReader raw = .ok grant ∧
      grant.grantee = "did:jwk:delegate" ∧ (Requested readRequest grant.scope ∨
        ∃ id, OtherGrant plainReader [[1]] i id ∧ Revokes grant.scope id) := by
  constructor
  · refine validateEach_eq_ok.mpr ?_
    simp only [List.forall_mem_cons, List.not_mem_nil, false_imp_iff, implies_true, and_true]
    exact ⟨_, parseGrant_plainReader_one, rfl, .inl isSessionRevocationGrant_sessionPair⟩
  · intro hclaim
    obtain ⟨grant, hparsed, -, hscope⟩ := hclaim 0 [1] rfl
    obtain rfl := Except.ok.inj (parseGrant_plainReader_one.symm.trans hparsed)
    rcases hscope with ⟨request, hrequest, asked, hasked, hnarrows⟩ |
      ⟨id, ⟨-, j, hj, raw, _, hraw, -⟩, -⟩
    · obtain rfl := List.mem_singleton.mp hrequest
      obtain rfl := List.mem_singleton.mp hasked
      have hmethod := hnarrows.method
      simp [Json.field] at hmethod
    · cases j with
      | zero => exact absurd rfl hj
      | succ j => simp at hraw

end Meshd.Wallet.Connect

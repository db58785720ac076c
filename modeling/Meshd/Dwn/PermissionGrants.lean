import Meshd.Dwn.Transport
import Meshd.Framework.Select

namespace Meshd.Dwn

open Meshd.Framework

/-! Permission grants: what is read of a grant message, and which of a list is invoked. -/

/-- A type of message. As in the source it is any text; the constants are those that are known. -/
abbrev DwnInterface := String

def interfaceRecordsWrite : DwnInterface := "RecordsWrite"

def interfaceRecordsRead : DwnInterface := "RecordsRead"

def interfaceRecordsQuery : DwnInterface := "RecordsQuery"

def interfaceRecordsDelete : DwnInterface := "RecordsDelete"

def interfaceProtocolsConfigure : DwnInterface := "ProtocolsConfigure"

def interfaceProtocolsQuery : DwnInterface := "ProtocolsQuery"

structure JWSSignature where
  protectedHeader : String
  signature : String
deriving DecidableEq

structure GeneralJWS where
  payload : String
  signatures : List JWSSignature
deriving DecidableEq

/-- How a message is authorized, beside its signature. -/
structure MessageAuth where
  protocolRole : String := ""
  permissionGrantID : String := ""
  /-- the message of a delegated grant as it was received; empty for none -/
  delegatedGrant : Bytes := []
deriving DecidableEq

structure PermissionScope where
  interface : String
  method : String
  protocol : String := ""
  protocolPath : String := ""
  contextID : String := ""
deriving DecidableEq

structure PermissionGrant where
  id : String
  grantor : String
  grantee : String
  dateGranted : String
  dateExpires : String
  delegated : Bool
  scope : PermissionScope
deriving DecidableEq

/-- What `ParsePermissionGrant` reads of the message of a grant. -/
structure GrantMessage where
  recordID : String
  encodedData : String
  recipient : String
  dateCreated : String
  signature : Option GeneralJWS
deriving DecidableEq

/-- What it reads of the data. -/
structure GrantData where
  dateExpires : String
  delegated : Bool
  scope : PermissionScope
deriving DecidableEq

/-- The readers of texts: `json.Unmarshal` into the members of a message, of its data and of a
protected header, and `time.Parse` of an RFC 3339 time. The empty text is no JSON. -/
structure GrantReader where
  message : Bytes → Except String GrantMessage
  data : Bytes → Except String GrantData
  kid : Bytes → Except String String
  time : String → Option Time
  message_nil : ∀ msg, message [] ≠ .ok msg

def signerDIDFromJWS (reader : GrantReader) (jws : Option GeneralJWS) : Except String String :=
  match jws.bind (·.signatures.head?) with
  | none => .error "permission grant missing authorization signature"
  | some signature =>
    match Base64.rawURLDecode signature.protectedHeader with
    | none => .error "decode permission grant protected header: illegal base64 data"
    | some headerData => do
      let kid ← (reader.kid headerData).mapError ("parse permission grant protected header: " ++ ·)
      if kid = "" then .error "permission grant protected header missing kid"
      else match lastIndexOf ['#'] kid.toList with
        | some (i + 1) => .ok (String.ofList (kid.toList.take (i + 1)))
        | _ => .ok kid

def parsePermissionGrant (reader : GrantReader) (raw : Bytes) : Except String PermissionGrant := do
  let msg ← (reader.message raw).mapError ("parse permission grant message: " ++ ·)
  if msg.recordID = "" then .error "permission grant missing recordId"
  else if msg.encodedData = "" then
    .error ("permission grant " ++ msg.recordID ++ " missing encodedData")
  else if msg.recipient = "" then
    .error ("permission grant " ++ msg.recordID ++ " missing descriptor.recipient")
  else
    let grantor ← (signerDIDFromJWS reader msg.signature).mapError
      (("permission grant " ++ msg.recordID ++ ": ") ++ ·)
    match Base64.rawURLDecode msg.encodedData with
    | none => .error ("decode permission grant " ++ msg.recordID ++ " data: illegal base64 data")
    | some data =>
      let grantData ← (reader.data data).mapError
        (("parse permission grant " ++ msg.recordID ++ " data: ") ++ ·)
      if grantData.dateExpires = "" then
        .error ("permission grant " ++ msg.recordID ++ " missing dateExpires")
      else if grantData.scope.interface = "" ∨ grantData.scope.method = "" then
        .error ("permission grant " ++ msg.recordID ++ " missing scope interface or method")
      else
        .ok { id := msg.recordID, grantor, grantee := msg.recipient, dateGranted := msg.dateCreated
              dateExpires := grantData.dateExpires, delegated := grantData.delegated
              scope := grantData.scope }

structure PermissionGrantMatch where
  grantor : String
  grantee : String
  messageType : DwnInterface
  protocol : String
  protocolPath : String
  contextID : String
  /-- the zero time stands for the time of the check -/
  now : Time
  allowDelegated : Bool := false

def scopeInterfaceMethodMatches (scope : PermissionScope) (messageType : DwnInterface) : Bool :=
  if messageType = interfaceRecordsRead ∨ messageType = interfaceRecordsQuery then
    scope.interface = "Records" ∧ scope.method = "Read"
  else if messageType = interfaceRecordsWrite then
    scope.interface = "Records" ∧ scope.method = "Write"
  else if messageType = interfaceRecordsDelete then
    scope.interface = "Records" ∧ scope.method = "Delete"
  else if messageType = interfaceProtocolsQuery then
    scope.interface = "Protocols" ∧ scope.method = "Query"
  else if messageType = interfaceProtocolsConfigure then
    scope.interface = "Protocols" ∧ scope.method = "Configure"
  else false

def scopeTargetMatches (scope : PermissionScope) (protocol protocolPath contextID : String) : Bool :=
  if scope.protocol ≠ "" ∧ scope.protocol ≠ protocol then false
  else if scope.protocolPath ≠ "" ∧ scope.protocolPath ≠ protocolPath then false
  else if scope.contextID ≠ "" ∧ scope.contextID ≠ contextID then false
  else true

section Selection
variable (reader : GrantReader)

/-- `clock` is what `time.Now` gives at the check. -/
def permissionGrantActive (grant : PermissionGrant) (now clock : Time) : Bool :=
  match reader.time grant.dateExpires with
  | none => false
  | some expiresAt => (if now = 0 then clock else now) < expiresAt

def permissionGrantMatches (grant : PermissionGrant) (m : PermissionGrantMatch) (clock : Time) :
    Bool :=
  if m.grantor ≠ "" ∧ grant.grantor ≠ m.grantor then false
  else if m.grantee ≠ "" ∧ grant.grantee ≠ m.grantee then false
  else if !permissionGrantActive reader grant m.now clock then false
  else if !scopeInterfaceMethodMatches grant.scope m.messageType then false
  else scopeTargetMatches grant.scope m.protocol m.protocolPath m.contextID

/-- The scope names the type of the message, as that of a read does not name a query. -/
def exactScope (m : PermissionGrantMatch) (grant : PermissionGrant) : Bool :=
  grant.scope.interface ++ grant.scope.method = m.messageType

/-- The loop of `FindPermissionGrantID`, over the grants with the clock at each. -/
def findPermissionGrantIDLoop (m : PermissionGrantMatch) :
    String → List (Bytes × Time) → String
  | fallback, [] => fallback
  | fallback, (raw, clock) :: rest =>
    match parsePermissionGrant reader raw with
    | .error _ => findPermissionGrantIDLoop m fallback rest
    | .ok grant =>
      if grant.delegated && !m.allowDelegated then findPermissionGrantIDLoop m fallback rest
      else if !permissionGrantMatches reader grant m clock then
        findPermissionGrantIDLoop m fallback rest
      else if exactScope m grant then grant.id
      else findPermissionGrantIDLoop m (if fallback = "" then grant.id else fallback) rest

def findPermissionGrantID (rawGrants : List (Bytes × Time)) (m : PermissionGrantMatch) : String :=
  findPermissionGrantIDLoop reader m "" rawGrants

/-- The loop of `FindDelegatedGrant`; the empty text is the nil message. -/
def findDelegatedGrantLoop (m : PermissionGrantMatch) :
    Bytes × Option PermissionGrant → List (Bytes × Time) → Bytes × Option PermissionGrant
  | fallback, [] => fallback
  | fallback, (raw, clock) :: rest =>
    match parsePermissionGrant reader raw with
    | .error _ => findDelegatedGrantLoop m fallback rest
    | .ok grant =>
      if !grant.delegated then findDelegatedGrantLoop m fallback rest
      else if !permissionGrantMatches reader grant m clock then findDelegatedGrantLoop m fallback rest
      else if exactScope m grant then (raw, some grant)
      else findDelegatedGrantLoop m (if fallback.1 = [] then (raw, some grant) else fallback) rest

def findDelegatedGrant (rawGrants : List (Bytes × Time)) (m : PermissionGrantMatch) :
    Bytes × Option PermissionGrant :=
  findDelegatedGrantLoop reader m ([], none) rawGrants

/-! ### What the loops are to find -/

/-- The interface and the method that a scope names for a message of the type. -/
inductive Invokes : DwnInterface → String → String → Prop
  | read : Invokes interfaceRecordsRead "Records" "Read"
  | query : Invokes interfaceRecordsQuery "Records" "Read"
  | write : Invokes interfaceRecordsWrite "Records" "Write"
  | delete : Invokes interfaceRecordsDelete "Records" "Delete"
  | protocolsQuery : Invokes interfaceProtocolsQuery "Protocols" "Query"
  | protocolsConfigure : Invokes interfaceProtocolsConfigure "Protocols" "Configure"

/-- A grant that may be invoked for the message at the time of the check. -/
structure PermissionGrant.Matches (grant : PermissionGrant) (m : PermissionGrantMatch)
    (clock : Time) : Prop where
  grantor : m.grantor = "" ∨ grant.grantor = m.grantor
  grantee : m.grantee = "" ∨ grant.grantee = m.grantee
  active : ∃ expiresAt, reader.time grant.dateExpires = some expiresAt ∧
    (if m.now = 0 then clock else m.now) < expiresAt
  method : Invokes m.messageType grant.scope.interface grant.scope.method
  protocol : grant.scope.protocol = "" ∨ grant.scope.protocol = m.protocol
  protocolPath : grant.scope.protocolPath = "" ∨ grant.scope.protocolPath = m.protocolPath
  contextID : grant.scope.contextID = "" ∨ grant.scope.contextID = m.contextID

variable {reader} {m : PermissionGrantMatch} {accepts : PermissionGrant → Bool}

theorem scopeTargetMatches_iff {scope : PermissionScope} {protocol protocolPath contextID : String} :
    scopeTargetMatches scope protocol protocolPath contextID = true ↔
      (scope.protocol = "" ∨ scope.protocol = protocol) ∧
      (scope.protocolPath = "" ∨ scope.protocolPath = protocolPath) ∧
      (scope.contextID = "" ∨ scope.contextID = contextID) := by
  rw [scopeTargetMatches]
  split_ifs with h1 h2 h3 <;> grind

theorem scopeInterfaceMethodMatches_iff {scope : PermissionScope} {messageType : DwnInterface} :
    scopeInterfaceMethodMatches scope messageType = true ↔
      Invokes messageType scope.interface scope.method := by
  constructor
  · intro h
    rw [scopeInterfaceMethodMatches] at h
    split_ifs at h with hread hwrite hdelete hquery hconfigure
    · obtain ⟨hi, hm⟩ := of_decide_eq_true h
      rw [hi, hm]
      rcases hread with rfl | rfl
      · exact .read
      · exact .query
    all_goals
      obtain ⟨hi, hm⟩ := of_decide_eq_true h
      subst messageType
      rw [hi, hm]
      constructor
  · intro h
    rw [scopeInterfaceMethodMatches]
    generalize scope.interface = interface at h ⊢
    generalize scope.method = method at h ⊢
    cases h <;> decide

theorem permissionGrantActive_iff {grant : PermissionGrant} {now clock : Time} :
    permissionGrantActive reader grant now clock = true ↔
      ∃ expiresAt, reader.time grant.dateExpires = some expiresAt ∧
        (if now = 0 then clock else now) < expiresAt := by
  rw [permissionGrantActive]
  cases reader.time grant.dateExpires with
  | none => simp
  | some expiresAt => simp

theorem permissionGrantMatches_iff {grant : PermissionGrant} {clock : Time} :
    permissionGrantMatches reader grant m clock = true ↔ grant.Matches reader m clock := by
  have hiff : grant.Matches reader m clock ↔
      (m.grantor = "" ∨ grant.grantor = m.grantor) ∧ (m.grantee = "" ∨ grant.grantee = m.grantee) ∧
      permissionGrantActive reader grant m.now clock = true ∧
      scopeInterfaceMethodMatches grant.scope m.messageType = true ∧
      scopeTargetMatches grant.scope m.protocol m.protocolPath m.contextID = true := by
    rw [permissionGrantActive_iff, scopeInterfaceMethodMatches_iff, scopeTargetMatches_iff]
    exact ⟨fun h => ⟨h.grantor, h.grantee, h.active, h.method, h.protocol, h.protocolPath,
      h.contextID⟩, fun ⟨h1, h2, h3, h4, h5, h6, h7⟩ => ⟨h1, h2, h3, h4, h5, h6, h7⟩⟩
  rw [hiff, permissionGrantMatches]
  split_ifs with h1 h2 h3 h4 <;> grind

/-- A parsed grant has an ID, and its message is not empty. -/
theorem parsePermissionGrant_eq_ok {raw : Bytes} {grant : PermissionGrant}
    (h : parsePermissionGrant reader raw = .ok grant) : raw ≠ [] ∧ grant.id ≠ "" := by
  simp only [parsePermissionGrant, bind_eq_ok, mapError_eq_ok, ite_error_eq_ok] at h
  obtain ⟨msg, hmsg, hid, -, -, grantor, -, hrest⟩ := h
  refine ⟨fun hnil => reader.message_nil msg (hnil ▸ hmsg), ?_⟩
  split at hrest
  · simp at hrest
  · simp only [bind_eq_ok, mapError_eq_ok, ite_error_eq_ok] at hrest
    obtain ⟨data, -, -, -, hgrant⟩ := hrest
    obtain rfl := Except.ok.inj hgrant
    exact hid

variable (reader) (m) in
/-- The entry holds a grant of the kind asked for that may be invoked. -/
structure Usable (accepts : PermissionGrant → Bool) (entry : Bytes × Time)
    (grant : PermissionGrant) : Prop where
  parsed : parsePermissionGrant reader entry.1 = .ok grant
  accepted : accepts grant = true
  matching : grant.Matches reader m entry.2

variable (reader) (m) in
/-- The message with its grant, where it is one of those to choose from. -/
def candidate (accepts : PermissionGrant → Bool) (entry : Bytes × Time) :
    Option (Bytes × PermissionGrant) :=
  match parsePermissionGrant reader entry.1 with
  | .error _ => none
  | .ok grant =>
    if accepts grant && permissionGrantMatches reader grant m entry.2 then some (entry.1, grant)
    else none

theorem candidate_eq_some {entry : Bytes × Time} {found : Bytes × PermissionGrant} :
    candidate reader m accepts entry = some found ↔
      found.1 = entry.1 ∧ Usable reader m accepts entry found.2 := by
  obtain ⟨raw, grant⟩ := found
  rw [candidate]
  cases hparsed : parsePermissionGrant reader entry.1 with
  | error e =>
    simp only [reduceCtorEq, false_iff, not_and]
    intro _ h
    simp [h.parsed] at hparsed
  | ok parsed =>
    simp only [Option.ite_none_right_eq_some, Option.some.injEq, Prod.mk.injEq, Bool.and_eq_true,
      permissionGrantMatches_iff]
    constructor
    · rintro ⟨⟨haccepts, hmatches⟩, rfl, rfl⟩
      exact ⟨rfl, hparsed, haccepts, hmatches⟩
    · rintro ⟨rfl, h⟩
      obtain rfl : parsed = grant := Except.ok.inj (hparsed.symm.trans h.parsed)
      exact ⟨⟨h.accepted, h.matching⟩, rfl, rfl⟩

variable (reader) (m) in
/-- What a list offers. -/
def candidates (accepts : PermissionGrant → Bool) (rawGrants : List (Bytes × Time)) :
    List (Bytes × PermissionGrant) :=
  rawGrants.filterMap (candidate reader m accepts)

theorem mem_candidates {rawGrants : List (Bytes × Time)} {found : Bytes × PermissionGrant} :
    found ∈ candidates reader m accepts rawGrants ↔
      ∃ entry ∈ rawGrants, found.1 = entry.1 ∧ Usable reader m accepts entry found.2 := by
  simp only [candidates, List.mem_filterMap, candidate_eq_some]

theorem candidates_ne_nil {rawGrants : List (Bytes × Time)} :
    candidates reader m accepts rawGrants ≠ [] ↔
      ∃ entry ∈ rawGrants, ∃ grant, Usable reader m accepts entry grant := by
  constructor
  · intro hne
    obtain ⟨found, hfound⟩ := List.exists_mem_of_ne_nil _ hne
    obtain ⟨entry, hentry, -, husable⟩ := mem_candidates.mp hfound
    exact ⟨entry, hentry, found.2, husable⟩
  · rintro ⟨entry, hentry, grant, husable⟩
    have hfound : (entry.1, grant) ∈ candidates reader m accepts rawGrants :=
      mem_candidates.mpr ⟨entry, hentry, rfl, husable⟩
    exact List.ne_nil_of_mem hfound

/-- The preferred candidate is usable, and exact where any usable one is. -/
theorem preferred_candidates {rawGrants : List (Bytes × Time)} {found : Bytes × PermissionGrant}
    (h : preferred (exactScope m ·.2) (candidates reader m accepts rawGrants) = some found) :
    ∃ entry ∈ rawGrants, found.1 = entry.1 ∧ Usable reader m accepts entry found.2 ∧
      ((∃ entry ∈ rawGrants, ∃ grant, Usable reader m accepts entry grant ∧
        exactScope m grant = true) → exactScope m found.2 = true) := by
  obtain ⟨entry, hentry, hraw, husable⟩ := mem_candidates.mp (mem_of_preferred h)
  refine ⟨entry, hentry, hraw, husable, ?_⟩
  rintro ⟨other, hother, grant, hgrant, hexact⟩
  have hoffered : (other.1, grant) ∈ candidates reader m accepts rawGrants :=
    mem_candidates.mpr ⟨other, hother, rfl, hgrant⟩
  have hbest := exact_of_preferred h hoffered hexact
  exact hbest

/-- Entries that hold nothing usable offer nothing. -/
theorem candidates_insert {useless : List (Bytes × Time)}
    (h : ∀ entry ∈ useless, ∀ grant, ¬ Usable reader m accepts entry grant)
    (before after : List (Bytes × Time)) :
    candidates reader m accepts (before ++ useless ++ after) =
      candidates reader m accepts (before ++ after) := by
  have hnone : candidates reader m accepts useless = [] := by
    by_contra hne
    obtain ⟨entry, hentry, grant, husable⟩ := candidates_ne_nil.mp hne
    exact h entry hentry grant husable
  rw [candidates] at hnone ⊢
  rw [List.filterMap_append, List.filterMap_append, hnone, List.append_nil, candidates,
    List.filterMap_append]

/-! ### The loops find it -/

/-- Plain grants, and with `AllowDelegated` delegated ones too. -/
def isPlain (m : PermissionGrantMatch) (grant : PermissionGrant) : Bool :=
  !(grant.delegated && !m.allowDelegated)

/-- The ID of a choice, empty where there is none. -/
def idOf (choice : Option (Bytes × PermissionGrant)) : String := (choice.map (·.2.id)).getD ""

/-- The message and the grant of a choice. -/
def messageOf (choice : Option (Bytes × PermissionGrant)) : Bytes × Option PermissionGrant :=
  ((choice.map (·.1)).getD [], choice.map (·.2))

variable (reader) (m) in
theorem findPermissionGrantIDLoop_prefers :
    PrefersExact (candidate reader m (isPlain m))
      (exactScope m ·.2) idOf (findPermissionGrantIDLoop reader m) (· = "") where
  nil _ := rfl
  skip {entry} hc acc rest := by
    rw [findPermissionGrantIDLoop]
    rw [candidate] at hc
    cases hparsed : parsePermissionGrant reader entry.1 with
    | error e => rfl
    | ok grant => grind [isPlain]
  found {entry c} hc acc rest := by
    rw [findPermissionGrantIDLoop]
    rw [candidate] at hc
    cases hparsed : parsePermissionGrant reader entry.1 with
    | error e => simp [hparsed] at hc
    | ok grant => grind [idOf, isPlain]
  empty := by decide
  not_empty hc := decide_eq_false (parsePermissionGrant_eq_ok (candidate_eq_some.mp hc).2.parsed).2

variable (reader) (m) in
theorem findDelegatedGrantLoop_prefers :
    PrefersExact (candidate reader m (·.delegated)) (exactScope m ·.2) messageOf
      (findDelegatedGrantLoop reader m) (·.1 = []) where
  nil _ := rfl
  skip {entry} hc acc rest := by
    rw [findDelegatedGrantLoop]
    rw [candidate] at hc
    cases hparsed : parsePermissionGrant reader entry.1 with
    | error e => rfl
    | ok grant => grind
  found {entry c} hc acc rest := by
    rw [findDelegatedGrantLoop]
    rw [candidate] at hc
    cases hparsed : parsePermissionGrant reader entry.1 with
    | error e => simp [hparsed] at hc
    | ok grant => grind [messageOf]
  empty := by decide
  not_empty hc := by
    obtain ⟨hraw, husable⟩ := candidate_eq_some.mp hc
    exact decide_eq_false (hraw ▸ (parsePermissionGrant_eq_ok husable.parsed).1)

theorem findPermissionGrantID_eq (rawGrants : List (Bytes × Time)) :
    findPermissionGrantID reader rawGrants m =
      idOf (preferred (exactScope m ·.2) (candidates reader m (isPlain m) rawGrants)) :=
  (findPermissionGrantIDLoop_prefers reader m).eq_preferred rawGrants

theorem findDelegatedGrant_eq (rawGrants : List (Bytes × Time)) :
    findDelegatedGrant reader rawGrants m =
      messageOf (preferred (exactScope m ·.2) (candidates reader m (·.delegated) rawGrants)) :=
  (findDelegatedGrantLoop_prefers reader m).eq_preferred rawGrants

variable (reader) (m) in
/-- The ID that is found belongs to a usable plain grant, an exact one where there is any. -/
theorem findPermissionGrantID_spec (rawGrants : List (Bytes × Time)) :
    (findPermissionGrantID reader rawGrants m ≠ "" ↔
      ∃ entry ∈ rawGrants, ∃ grant, Usable reader m (isPlain m) entry grant) ∧
    (findPermissionGrantID reader rawGrants m ≠ "" →
      ∃ entry ∈ rawGrants, ∃ grant, Usable reader m (isPlain m) entry grant ∧
        grant.id = findPermissionGrantID reader rawGrants m ∧
        ((∃ entry ∈ rawGrants, ∃ grant, Usable reader m (isPlain m) entry grant ∧
          exactScope m grant = true) → exactScope m grant = true)) := by
  rw [findPermissionGrantID_eq, ← candidates_ne_nil]
  cases hp : preferred (exactScope m ·.2) (candidates reader m (isPlain m) rawGrants) with
  | none =>
    rw [preferred_eq_none.mp hp]
    simp [idOf]
  | some found =>
    obtain ⟨entry, hentry, hraw, husable, hbest⟩ := preferred_candidates hp
    have hne : idOf (some found) ≠ "" := (parsePermissionGrant_eq_ok husable.parsed).2
    refine ⟨iff_of_true hne (List.ne_nil_of_mem (mem_of_preferred hp)), fun _ => ?_⟩
    exact ⟨entry, hentry, found.2, husable, rfl, hbest⟩

variable (reader) (m) in
/-- The message that is found holds a usable delegated grant, an exact one where there is any. -/
theorem findDelegatedGrant_spec (rawGrants : List (Bytes × Time)) :
    ((findDelegatedGrant reader rawGrants m).1 ≠ [] ↔
      ∃ entry ∈ rawGrants, ∃ grant, Usable reader m (·.delegated) entry grant) ∧
    ((findDelegatedGrant reader rawGrants m).1 ≠ [] →
      ∃ entry ∈ rawGrants, ∃ grant, Usable reader m (·.delegated) entry grant ∧
        findDelegatedGrant reader rawGrants m = (entry.1, some grant) ∧
        ((∃ entry ∈ rawGrants, ∃ grant, Usable reader m (·.delegated) entry grant ∧
          exactScope m grant = true) → exactScope m grant = true)) := by
  rw [findDelegatedGrant_eq, ← candidates_ne_nil]
  cases hp : preferred (exactScope m ·.2) (candidates reader m (·.delegated) rawGrants) with
  | none =>
    rw [preferred_eq_none.mp hp]
    simp [messageOf]
  | some found =>
    obtain ⟨entry, hentry, hraw, husable, hbest⟩ := preferred_candidates hp
    have hne : (messageOf (some found)).1 ≠ [] :=
      hraw ▸ (parsePermissionGrant_eq_ok husable.parsed).1
    refine ⟨iff_of_true hne (List.ne_nil_of_mem (mem_of_preferred hp)), fun _ => ?_⟩
    exact ⟨entry, hentry, found.2, husable, by rw [← hraw]; rfl, hbest⟩

end Selection

end Meshd.Dwn

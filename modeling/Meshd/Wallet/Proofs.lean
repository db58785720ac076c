import Meshd.Did.Jwk
import Meshd.Framework.Lines
import Meshd.Framework.Trim
import Meshd.Mesh.MeshProtocol

namespace Meshd.Wallet

open Meshd.Framework Meshd.Did

/-! The texts a node signs for a wallet, an owner or a network. A Go string is the list of its
bytes, since nothing here asks for valid UTF-8. -/

def newline : UInt8 := 10

def comma : UInt8 := 44

/-- The white space of `unicode.IsSpace` in UTF-8. -/
def spaces : List Bytes :=
  [[9], [10], [11], [12], [13], [32], [0xC2, 0x85], [0xC2, 0xA0], [0xE1, 0x9A, 0x80]] ++
    (List.range 11).map (fun i => [0xE2, 0x80, 0x80 + UInt8.ofNat i]) ++
    [[0xE2, 0x80, 0xA8], [0xE2, 0x80, 0xA9], [0xE2, 0x80, 0xAF], [0xE2, 0x81, 0x9F],
      [0xE3, 0x80, 0x80]]

/-- `strings.TrimSpace`. Bytes that are not valid UTF-8 decode to no white space. -/
def trimSpace (text : Bytes) : Bytes := trimWords spaces text

theorem spaces_nonempty : [] ∉ spaces := by decide

theorem comma_not_mem_spaces : ∀ word ∈ spaces, comma ∉ word := by decide

theorem mem_of_mem_trimSpace {text : Bytes} {b : UInt8} (h : b ∈ trimSpace text) : b ∈ text :=
  (trimWords_isInfix spaces text).subset h

theorem trimSpace_nil : trimSpace [] = [] :=
  List.eq_nil_of_infix_nil (trimWords_isInfix spaces [])

/-! ## Messages -/

/-- Where a wallet sends its response, and for which delegate. -/
structure Delivery where
  delegateDID : Bytes
  callbackURL : Bytes
  responseEndpoint : Bytes
  responseToken : Bytes
deriving DecidableEq

/-- The trailing values of a proof by position. Five values begin with the delegate, fewer do not
have it. -/
def nodeProofFields : List Bytes → Delivery × Bytes
  | delegateDID :: callbackURL :: responseEndpoint :: responseToken :: permissions :: _ =>
    ({ delegateDID := trimSpace delegateDID
       callbackURL := trimSpace callbackURL
       responseEndpoint := trimSpace responseEndpoint
       responseToken := trimSpace responseToken },
      trimSpace permissions)
  | values =>
    ({ delegateDID := []
       callbackURL := trimSpace (values.getD 0 [])
       responseEndpoint := trimSpace (values.getD 1 [])
       responseToken := trimSpace (values.getD 2 []) },
      trimSpace (values.getD 3 []))

/-- The same without permissions: here four values begin with the delegate. -/
def networkCreateProofFields : List Bytes → Delivery
  | delegateDID :: callbackURL :: responseEndpoint :: responseToken :: _ =>
    { delegateDID := trimSpace delegateDID
      callbackURL := trimSpace callbackURL
      responseEndpoint := trimSpace responseEndpoint
      responseToken := trimSpace responseToken }
  | values =>
    { delegateDID := []
      callbackURL := trimSpace (values.getD 0 [])
      responseEndpoint := trimSpace (values.getD 1 [])
      responseToken := trimSpace (values.getD 2 []) }

/-- The map of seen permissions holds those already collected. -/
def addPermission (values : List Bytes) (permission : Bytes) : List Bytes :=
  let permission := trimSpace permission
  if permission = [] then values
  else if permission ∈ values then values
  else values ++ [permission]

def permissionsProofValue (permissions : List Bytes) : Bytes :=
  [comma].intercalate ((permissions.foldl addPermission []).mergeSort fun a b => decide (a ≤ b))

/-- A message: a first line with its name and version, and lines with a label and a value. The node
is in the second of them, and a delegate may follow it. -/
@[ext] structure ProofText where
  header : String
  first : String × Bytes
  nodeDID : Bytes
  delegateDID : Bytes
  rest : List (String × Bytes)

def fieldLine (field : String × Bytes) : Bytes := ascii field.1 ++ field.2

namespace ProofText

def delegateFields (t : ProofText) : List (String × Bytes) :=
  if t.delegateDID = [] then [] else [("delegate=", t.delegateDID)]

def fields (t : ProofText) : List (String × Bytes) :=
  [t.first, ("node=", t.nodeDID)] ++ t.delegateFields ++ t.rest

def lines (t : ProofText) : List Bytes := ascii t.header :: t.fields.map fieldLine

def message (t : ProofText) : Bytes := unlines newline t.lines

end ProofText

def nodeProofText (challenge nodeDID : Bytes) (delivery : List Bytes) : ProofText :=
  let (d, permissions) := nodeProofFields delivery
  { header := "meshd wallet connect v1"
    first := ("challenge=", challenge)
    nodeDID := nodeDID
    delegateDID := d.delegateDID
    rest := [("callback=", d.callbackURL),
      ("responseEndpoint=", d.responseEndpoint),
      ("responseToken=", d.responseToken),
      ("permissions=", permissions)] }

def nodeProofMessage (challenge nodeDID : Bytes) (delivery : List Bytes) : Bytes :=
  (nodeProofText challenge nodeDID delivery).message

def networkCreateProofText (challenge nodeDID networkName endpoint meshCIDR : Bytes)
    (delivery : List Bytes) : ProofText :=
  let d := networkCreateProofFields delivery
  { header := "meshd network create v1"
    first := ("challenge=", challenge)
    nodeDID := nodeDID
    delegateDID := d.delegateDID
    rest := [("name=", networkName),
      ("endpoint=", endpoint),
      ("cidr=", meshCIDR),
      ("callback=", d.callbackURL),
      ("responseEndpoint=", d.responseEndpoint),
      ("responseToken=", d.responseToken)] }

def networkCreateProofMessage (challenge nodeDID networkName endpoint meshCIDR : Bytes)
    (delivery : List Bytes) : Bytes :=
  (networkCreateProofText challenge nodeDID networkName endpoint meshCIDR delivery).message

def memberOrNode (memberDID nodeDID : Bytes) : Bytes := if memberDID = [] then nodeDID else memberDID

def nodeJoinProofText (networkID nodeDID memberDID preAuthKeyID : Bytes) : ProofText :=
  { header := "meshd node join v1"
    first := ("network=", networkID)
    nodeDID := nodeDID
    delegateDID := []
    rest := [("member=", memberOrNode memberDID nodeDID), ("preauth=", preAuthKeyID)] }

def nodeJoinProofMessage (networkID nodeDID memberDID preAuthKeyID : Bytes) : Bytes :=
  (nodeJoinProofText networkID nodeDID memberDID preAuthKeyID).message

def ownerNodeRequestProofText (ownerDID nodeDID sourceDWN requestedAt : Bytes) : ProofText :=
  { header := "meshd owner node request v1"
    first := ("owner=", ownerDID)
    nodeDID := nodeDID
    delegateDID := []
    rest := [("sourceDWN=", sourceDWN), ("requestedAt=", requestedAt)] }

def ownerNodeRequestProofMessage (ownerDID nodeDID sourceDWN requestedAt : Bytes) : Bytes :=
  (ownerNodeRequestProofText ownerDID nodeDID sourceDWN requestedAt).message

/-! ## Signatures -/

structure Signer where
  did : Bytes
  privateKey : Bytes

/-- What the proofs take from other packages: `ed25519`, `json.Unmarshal` into a JWK and the verb
`%q` of `fmt`. -/
structure ProofPrimitives where
  publicKey : Bytes → Bytes
  sign : Bytes → Bytes → Bytes
  verify : Bytes → Bytes → Bytes → Bool
  unmarshalJWK : Bytes → Except String JWK
  quote : Bytes → String

/-- A signature of an honest key verifies for the message it was made for and for no other. -/
def ProofPrimitives.IdealSignatures (p : ProofPrimitives) : Prop :=
  ∀ key, key.length = 64 → ∀ message message',
    p.verify (p.publicKey key) message' (p.sign key message) = true ↔ message' = message

variable (p : ProofPrimitives)

/-- The proof is empty when the signer does not fit. -/
def signProof (admits : Bytes → Bool) (signer : Option Signer) (message : Bytes) : Bytes :=
  match signer with
  | none => []
  | some s =>
    if admits s.did = false ∨ s.privateKey.length ≠ 64 then []
    else Base64.encodeBytes (p.sign s.privateKey message)

def verifyProof (nodeDID proof message : Bytes) : Bool :=
  match parseURI p.unmarshalJWK p.quote nodeDID with
  | .error _ => false
  | .ok pub =>
    match Base64.decodeBytes proof with
    | none => false
    | some sig => p.verify pub message sig

def signNodeProof (signer : Option Signer) (challenge nodeDID : Bytes) (delivery : List Bytes) :
    Bytes :=
  signProof p (· = nodeDID) signer (nodeProofMessage challenge nodeDID delivery)

def verifyNodeProof (nodeDID proof challenge : Bytes) (delivery : List Bytes) : Bool :=
  verifyProof p nodeDID proof (nodeProofMessage challenge nodeDID delivery)

def signNetworkCreateProof (signer : Option Signer)
    (challenge nodeDID networkName endpoint meshCIDR : Bytes) (delivery : List Bytes) : Bytes :=
  signProof p (· = nodeDID) signer
    (networkCreateProofMessage challenge nodeDID networkName endpoint meshCIDR delivery)

def verifyNetworkCreateProof (nodeDID proof challenge networkName endpoint meshCIDR : Bytes)
    (delivery : List Bytes) : Bool :=
  verifyProof p nodeDID proof
    (networkCreateProofMessage challenge nodeDID networkName endpoint meshCIDR delivery)

def signNodeJoinProof (signer : Option Signer) (networkID nodeDID memberDID preAuthKeyID : Bytes) :
    Bytes :=
  signProof p (· ≠ []) signer (nodeJoinProofMessage networkID nodeDID memberDID preAuthKeyID)

def verifyNodeJoinProof (nodeDID proof networkID memberDID preAuthKeyID : Bytes) : Bool :=
  verifyProof p nodeDID proof (nodeJoinProofMessage networkID nodeDID memberDID preAuthKeyID)

def signOwnerNodeRequestProof (signer : Option Signer)
    (ownerDID nodeDID sourceDWN requestedAt : Bytes) : Bytes :=
  signProof p (· ≠ []) signer (ownerNodeRequestProofMessage ownerDID nodeDID sourceDWN requestedAt)

/-- The members of a node request that its owner's verification reads. -/
structure NodeRequestData where
  nodeDID : Bytes
  ownerDID : Bytes
  nodeProof : Bytes
  sourceDWN : Bytes
  requestedAt : Bytes

def verifyOwnerNodeRequestProof (request : NodeRequestData) : Bool :=
  if request.nodeDID = [] ∨ request.ownerDID = [] ∨ request.nodeProof = [] ∨
      request.requestedAt = [] then false
  else
    verifyProof p request.nodeDID request.nodeProof
      (ownerNodeRequestProofMessage request.ownerDID request.nodeDID request.sourceDWN
        request.requestedAt)

/-! ## Requests -/

def currentVersion : Int := 1

def requestType : Bytes := ascii "meshd-cli-connect-request"

def networkCreateRequestType : Bytes := ascii "meshd-network-create-request"

structure Request where
  version : Int
  type : Bytes
  nodeDID : Bytes
  delegateDID : Bytes
  nodeProof : Bytes
  challenge : Bytes
  callbackURL : Bytes
  responseEndpoint : Bytes
  responseToken : Bytes
  permissions : List Bytes

/-- The trailing values of the request's proof. -/
def Request.delivery (r : Request) : List Bytes :=
  [r.delegateDID, r.callbackURL, r.responseEndpoint, r.responseToken,
    permissionsProofValue r.permissions]

def Request.validate (r : Request) : Except String Unit :=
  if r.version ≠ currentVersion then
    .error ("unsupported wallet connect request version " ++ toString r.version)
  else if r.type ≠ requestType then
    .error ("unsupported wallet connect request type " ++ p.quote r.type)
  else if r.nodeDID = [] then .error "wallet connect request missing node DID"
  else if r.challenge = [] then .error "wallet connect request missing challenge"
  else if r.nodeProof = [] then .error "wallet connect request missing node proof"
  else if verifyNodeProof p r.nodeDID r.nodeProof r.challenge r.delivery = false then
    .error "wallet connect request node proof is invalid"
  else .ok ()

structure NetworkCreateRequest where
  version : Int
  type : Bytes
  nodeDID : Bytes
  delegateDID : Bytes
  nodeProof : Bytes
  challenge : Bytes
  callbackURL : Bytes
  responseEndpoint : Bytes
  responseToken : Bytes
  protocol : Bytes
  networkName : Bytes
  meshCIDR : Bytes
  requestedEndpoint : Bytes

def NetworkCreateRequest.delivery (r : NetworkCreateRequest) : List Bytes :=
  [r.delegateDID, r.callbackURL, r.responseEndpoint, r.responseToken]

def NetworkCreateRequest.validate (r : NetworkCreateRequest) : Except String Unit :=
  if r.version ≠ currentVersion then
    .error ("unsupported network create request version " ++ toString r.version)
  else if r.type ≠ networkCreateRequestType then
    .error ("unsupported network create request type " ++ p.quote r.type)
  else if trimSpace r.nodeDID = [] then .error "network create request missing node DID"
  else if trimSpace r.networkName = [] then .error "network create request missing network name"
  else if trimSpace r.meshCIDR = [] then .error "network create request missing mesh CIDR"
  else if trimSpace r.protocol ≠ ascii Mesh.MeshProtocol.meshProtocolURI then
    .error ("unsupported network create protocol " ++ p.quote r.protocol)
  else if trimSpace r.challenge = [] then .error "network create request missing challenge"
  else if trimSpace r.nodeProof = [] then .error "network create request missing node proof"
  else if verifyNetworkCreateProof p r.nodeDID r.nodeProof r.challenge r.networkName
      r.requestedEndpoint r.meshCIDR r.delivery = false then
    .error "network create request node proof is invalid"
  else .ok ()

theorem Request.verify_of_validate {p : ProofPrimitives} {r : Request}
    (h : r.validate p = .ok ()) :
    verifyNodeProof p r.nodeDID r.nodeProof r.challenge r.delivery = true := by
  simp only [Request.validate, ite_error_eq_ok] at h
  obtain ⟨hversion, htype, hnode, hchallenge, hproof, hverify, -⟩ := h
  rwa [Bool.not_eq_false] at hverify

theorem NetworkCreateRequest.verify_of_validate {p : ProofPrimitives} {r : NetworkCreateRequest}
    (h : r.validate p = .ok ()) :
    verifyNetworkCreateProof p r.nodeDID r.nodeProof r.challenge r.networkName r.requestedEndpoint
      r.meshCIDR r.delivery = true := by
  simp only [NetworkCreateRequest.validate, ite_error_eq_ok] at h
  obtain ⟨hversion, htype, hnode, hname, hcidr, hprotocol, hchallenge, hproof, hverify, -⟩ := h
  rwa [Bool.not_eq_false] at hverify

end Meshd.Wallet

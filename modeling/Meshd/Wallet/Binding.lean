import Meshd.Wallet.ProofText

namespace Meshd.Wallet

open Meshd.Framework Meshd.Did

/-! An honest signature binds the fields of what it was made for: whatever else is accepted with it
is about the same fields. The verifiers take fields of any bytes. -/

variable {p : ProofPrimitives}

theorem verifyProof_eq_true {nodeDID proof message : Bytes}
    (h : verifyProof p nodeDID proof message = true) :
    ∃ pub sig, parseURI p.unmarshalJWK p.quote nodeDID = .ok pub ∧
      Base64.decodeBytes proof = some sig ∧ p.verify pub message sig = true := by
  unfold verifyProof at h
  split at h
  · cases h
  · next pub hpub =>
    split at h
    · cases h
    · next sig hsig => exact ⟨pub, sig, hpub, hsig, h⟩

theorem signProof_of_ne_nil {admits : Bytes → Bool} {signer : Signer} {message : Bytes}
    (h : signProof p admits (some signer) message ≠ []) :
    signer.privateKey.length = 64 ∧
      signProof p admits (some signer) message =
        Base64.encodeBytes (p.sign signer.privateKey message) := by
  simp only [signProof] at h ⊢
  split
  · next hreject => exact absurd (if_pos hreject) h
  · next hreject => exact ⟨not_not.mp (not_or.mp hreject).2, rfl⟩

/-- What is verified with an honest signature is the message it was made for. -/
theorem message_eq_of_verifyProof (hideal : p.IdealSignatures) {admits : Bytes → Bool}
    {signer : Signer} {message message' nodeDID' proof' : Bytes}
    (hsigned : signProof p admits (some signer) message ≠ [])
    (hkey : parseURI p.unmarshalJWK p.quote nodeDID' = .ok (p.publicKey signer.privateKey))
    (hsame : Base64.decodeBytes proof' =
      Base64.decodeBytes (signProof p admits (some signer) message))
    (hverify : verifyProof p nodeDID' proof' message' = true) : message' = message := by
  obtain ⟨hlen, hproof⟩ := signProof_of_ne_nil hsigned
  obtain ⟨pub, sig, hpub, hsig, hverify⟩ := verifyProof_eq_true hverify
  rw [hkey] at hpub
  rw [hsame, hproof, Base64.decodeBytes_encodeBytes] at hsig
  obtain rfl := Except.ok.inj hpub
  obtain rfl := Option.some.inj hsig
  exact (hideal signer.privateKey hlen message message').mp hverify

/-- An honest proof is verified. -/
theorem verifyProof_signProof (hideal : p.IdealSignatures) {admits : Bytes → Bool}
    {signer : Signer} {message nodeDID : Bytes}
    (hsigned : signProof p admits (some signer) message ≠ [])
    (hkey : parseURI p.unmarshalJWK p.quote nodeDID = .ok (p.publicKey signer.privateKey)) :
    verifyProof p nodeDID (signProof p admits (some signer) message) message = true := by
  obtain ⟨hlen, hproof⟩ := signProof_of_ne_nil hsigned
  simp only [verifyProof, hkey, hproof, Base64.decodeBytes_encodeBytes]
  exact (hideal signer.privateKey hlen message message).mpr rfl

/-! ## Submissions -/

/-- A request for `Validate`, or the arguments of a `Verify` function. -/
inductive Submission where
  | request (r : Request)
  | networkCreateRequest (r : NetworkCreateRequest)
  | ownerNodeRequest (r : NodeRequestData)
  | nodeProof (nodeDID proof challenge : Bytes) (delivery : List Bytes)
  | networkCreateProof (nodeDID proof challenge networkName endpoint meshCIDR : Bytes)
      (delivery : List Bytes)
  | nodeJoinProof (nodeDID proof networkID memberDID preAuthKeyID : Bytes)

namespace Submission

def proof : Submission → Bytes
  | request r => r.nodeProof
  | networkCreateRequest r => r.nodeProof
  | ownerNodeRequest r => r.nodeProof
  | nodeProof _ proof _ _ => proof
  | networkCreateProof _ proof _ _ _ _ _ => proof
  | nodeJoinProof _ proof _ _ _ => proof

def nodeDID : Submission → Bytes
  | request r => r.nodeDID
  | networkCreateRequest r => r.nodeDID
  | ownerNodeRequest r => r.nodeDID
  | nodeProof nodeDID _ _ _ => nodeDID
  | networkCreateProof nodeDID _ _ _ _ _ _ => nodeDID
  | nodeJoinProof nodeDID _ _ _ _ => nodeDID

/-- What the signer of such a submission puts in as the proof. -/
def sign (p : ProofPrimitives) (signer : Option Signer) : Submission → Bytes
  | request r => signNodeProof p signer r.challenge r.nodeDID r.delivery
  | networkCreateRequest r =>
    signNetworkCreateProof p signer r.challenge r.nodeDID r.networkName r.requestedEndpoint
      r.meshCIDR r.delivery
  | ownerNodeRequest r =>
    signOwnerNodeRequestProof p signer r.ownerDID r.nodeDID r.sourceDWN r.requestedAt
  | nodeProof nodeDID _ challenge delivery => signNodeProof p signer challenge nodeDID delivery
  | networkCreateProof nodeDID _ challenge networkName endpoint meshCIDR delivery =>
    signNetworkCreateProof p signer challenge nodeDID networkName endpoint meshCIDR delivery
  | nodeJoinProof nodeDID _ networkID memberDID preAuthKeyID =>
    signNodeJoinProof p signer networkID nodeDID memberDID preAuthKeyID

/-- The submission passes its `Validate` or `Verify` function. -/
def Accepted (p : ProofPrimitives) : Submission → Prop
  | request r => r.validate p = .ok ()
  | networkCreateRequest r => r.validate p = .ok ()
  | ownerNodeRequest r => verifyOwnerNodeRequestProof p r = true
  | nodeProof nodeDID proof challenge delivery =>
    verifyNodeProof p nodeDID proof challenge delivery = true
  | networkCreateProof nodeDID proof challenge networkName endpoint meshCIDR delivery =>
    verifyNetworkCreateProof p nodeDID proof challenge networkName endpoint meshCIDR delivery = true
  | nodeJoinProof nodeDID proof networkID memberDID preAuthKeyID =>
    verifyNodeJoinProof p nodeDID proof networkID memberDID preAuthKeyID = true

/-- The fields the submission is about. A permission text that is given as such stands for the
permissions between its commas. -/
def signedFields : Submission → SignedFields
  | request r =>
    .node r.challenge r.nodeDID
      { delegateDID := trimSpace r.delegateDID
        callbackURL := trimSpace r.callbackURL
        responseEndpoint := trimSpace r.responseEndpoint
        responseToken := trimSpace r.responseToken }
      (permissionSet r.permissions)
  | networkCreateRequest r =>
    .networkCreate r.challenge r.nodeDID r.networkName r.requestedEndpoint r.meshCIDR
      { delegateDID := trimSpace r.delegateDID
        callbackURL := trimSpace r.callbackURL
        responseEndpoint := trimSpace r.responseEndpoint
        responseToken := trimSpace r.responseToken }
  | ownerNodeRequest r => .ownerNode r.ownerDID r.nodeDID r.sourceDWN r.requestedAt
  | nodeProof nodeDID _ challenge delivery =>
    let (d, permissions) := nodeProofFields delivery
    .node challenge nodeDID d (permissionSet (permissions.splitOn comma))
  | networkCreateProof nodeDID _ challenge networkName endpoint meshCIDR delivery =>
    .networkCreate challenge nodeDID networkName endpoint meshCIDR (networkCreateProofFields delivery)
  | nodeJoinProof nodeDID _ networkID memberDID preAuthKeyID =>
    .nodeJoin networkID nodeDID (memberOrNode memberDID nodeDID) preAuthKeyID

/-- The texts of the fields as they are given. -/
def inputs : Submission → List Bytes
  | request r =>
    [r.challenge, r.nodeDID, r.delegateDID, r.callbackURL, r.responseEndpoint, r.responseToken] ++
      r.permissions
  | networkCreateRequest r =>
    [r.challenge, r.nodeDID, r.networkName, r.requestedEndpoint, r.meshCIDR, r.delegateDID,
      r.callbackURL, r.responseEndpoint, r.responseToken]
  | ownerNodeRequest r => [r.ownerDID, r.nodeDID, r.sourceDWN, r.requestedAt]
  | nodeProof nodeDID _ challenge delivery => [challenge, nodeDID] ++ delivery.take 5
  | networkCreateProof nodeDID _ challenge networkName endpoint meshCIDR delivery =>
    [challenge, nodeDID, networkName, endpoint, meshCIDR] ++ delivery.take 4
  | nodeJoinProof nodeDID _ networkID memberDID preAuthKeyID =>
    [networkID, nodeDID, memberDID, preAuthKeyID]

def NewlineFree (s : Submission) : Prop := ∀ input ∈ s.inputs, newline ∉ input

/-- No comma inside a permission of a request. -/
def CommaFree : Submission → Prop
  | request r => ∀ permission ∈ r.permissions, comma ∉ permission
  | _ => True

instance (s : Submission) : Decidable s.NewlineFree := List.decidableBAll _ _

instance : (s : Submission) → Decidable s.CommaFree
  | request _ => List.decidableBAll _ _
  | networkCreateRequest _ => .isTrue trivial
  | ownerNodeRequest _ => .isTrue trivial
  | nodeProof .. => .isTrue trivial
  | networkCreateProof .. => .isTrue trivial
  | nodeJoinProof .. => .isTrue trivial

/-- The call of a message's functions that the submission leads to. -/
def call : Submission → ProofCall
  | request r => .node r.challenge r.nodeDID r.delivery
  | networkCreateRequest r =>
    .networkCreate r.challenge r.nodeDID r.networkName r.requestedEndpoint r.meshCIDR r.delivery
  | ownerNodeRequest r => .ownerNode r.ownerDID r.nodeDID r.sourceDWN r.requestedAt
  | nodeProof nodeDID _ challenge delivery => .node challenge nodeDID delivery
  | networkCreateProof nodeDID _ challenge networkName endpoint meshCIDR delivery =>
    .networkCreate challenge nodeDID networkName endpoint meshCIDR delivery
  | nodeJoinProof nodeDID _ networkID memberDID preAuthKeyID =>
    .nodeJoin networkID nodeDID memberDID preAuthKeyID

theorem nodeDID_call (s : Submission) : s.call.text.nodeDID = s.nodeDID := by
  cases s <;> rfl

theorem sign_eq (signer : Option Signer) (s : Submission) :
    ∃ admits, s.sign p signer = signProof p admits signer s.call.text.message := by
  cases s with
  | request r => exact ⟨fun did => did = r.nodeDID, rfl⟩
  | networkCreateRequest r => exact ⟨fun did => did = r.nodeDID, rfl⟩
  | ownerNodeRequest r => exact ⟨fun did => did ≠ [], rfl⟩
  | nodeProof nodeDID proof challenge delivery => exact ⟨fun did => did = nodeDID, rfl⟩
  | networkCreateProof nodeDID proof challenge networkName endpoint meshCIDR delivery =>
    exact ⟨fun did => did = nodeDID, rfl⟩
  | nodeJoinProof nodeDID proof networkID memberDID preAuthKeyID => exact ⟨fun did => did ≠ [], rfl⟩

theorem verifyProof_of_accepted {s : Submission} (h : s.Accepted p) :
    verifyProof p s.nodeDID s.proof s.call.text.message = true := by
  cases s with
  | request r => exact r.verify_of_validate h
  | networkCreateRequest r => exact r.verify_of_validate h
  | ownerNodeRequest r =>
    simp only [Accepted, verifyOwnerNodeRequestProof] at h
    split at h
    · cases h
    · exact h
  | nodeProof nodeDID proof challenge delivery => exact h
  | networkCreateProof nodeDID proof challenge networkName endpoint meshCIDR delivery => exact h
  | nodeJoinProof nodeDID proof networkID memberDID preAuthKeyID => exact h

theorem signedFields_call {s : Submission} (hcommas : s.CommaFree) :
    s.call.signedFields = s.signedFields := by
  cases s with
  | request r =>
    have hset := permissionSet_proofValue hcommas
    simp only [call, ProofCall.signedFields, Request.delivery, nodeProofFields, signedFields, hset]
  | networkCreateRequest r => rfl
  | ownerNodeRequest r => rfl
  | nodeProof nodeDID proof challenge delivery => rfl
  | networkCreateProof nodeDID proof challenge networkName endpoint meshCIDR delivery => rfl
  | nodeJoinProof nodeDID proof networkID memberDID preAuthKeyID => rfl

theorem newline_not_mem_call {s : Submission} (h : s.NewlineFree) :
    ∀ input ∈ s.call.inputs, newline ∉ input := by
  cases s with
  | request r =>
    obtain ⟨hfields, hpermissions⟩ := List.forall_mem_append.mp h
    have hvalue := newline_not_mem_permissionsProofValue hpermissions
    simp_all [call, ProofCall.inputs, Request.delivery]
  | networkCreateRequest r => exact h
  | ownerNodeRequest r => exact h
  | nodeProof nodeDID proof challenge delivery => exact h
  | networkCreateProof nodeDID proof challenge networkName endpoint meshCIDR delivery => exact h
  | nodeJoinProof nodeDID proof networkID memberDID preAuthKeyID => exact h

/-- What is accepted with the key and the signature of an honestly signed submission without
newlines is about the same fields, whatever bytes it has in them. -/
theorem accepted_signedFields_eq (hideal : p.IdealSignatures) {honest other : Submission}
    {signer : Signer} (hsigned : honest.proof = honest.sign p (some signer))
    (hproof : honest.proof ≠ []) (hnewlines : honest.NewlineFree) (hcommas : honest.CommaFree)
    (hcommas' : other.CommaFree) (haccepted : other.Accepted p)
    (hkey : parseURI p.unmarshalJWK p.quote other.nodeDID = .ok (p.publicKey signer.privateKey))
    (hsame : Base64.decodeBytes other.proof = Base64.decodeBytes honest.proof) :
    other.signedFields = honest.signedFields := by
  obtain ⟨admits, hsign⟩ := honest.sign_eq (p := p) (some signer)
  rw [hsign] at hsigned
  rw [hsigned] at hproof hsame
  have hmessage : other.call.text.message = honest.call.text.message :=
    message_eq_of_verifyProof hideal hproof hkey hsame (verifyProof_of_accepted haccepted)
  have hparsed : 61 ∉ other.call.text.nodeDID := by
    rw [nodeDID_call]
    exact equals_not_mem_of_parseURI hkey
  rw [← signedFields_call hcommas', ← signedFields_call hcommas]
  exact (ProofCall.signedFields_eq_of_message_eq (newline_not_mem_call hnewlines) hparsed
    hmessage.symm).symm

end Submission

/-- Signatures that are the key and the message, and identities whose keys are the bytes in the
DID. -/
def echoPrimitives : ProofPrimitives where
  publicKey key := key.drop 32
  sign key message := key.drop 32 ++ message
  verify pub message sig := sig = pub ++ message
  unmarshalJWK bytes := .ok ⟨"OKP", "Ed25519", Base64.rawURLEncode (Buffer.copy 32 bytes).val⟩
  quote _ := "text"

theorem echoPrimitives_ideal : echoPrimitives.IdealSignatures := by
  intro key hlen message message'
  simp [echoPrimitives, eq_comm]

def echoSigner : Signer :=
  { did := ascii "did:jwk:AQ", privateKey := List.replicate 32 0 ++ 1 :: List.replicate 31 0 }

def draftRequest : Request where
  version := 1
  type := requestType
  nodeDID := ascii "did:jwk:AQ"
  delegateDID := ascii "did:jwk:Ag"
  nodeProof := []
  challenge := ascii "c1"
  callbackURL := []
  responseEndpoint := []
  responseToken := []
  permissions := [ascii "mesh-node"]

def signedRequest : Request :=
  { draftRequest with
    nodeProof := (Submission.request draftRequest).sign echoPrimitives (some echoSigner) }

/-- The same request with white space, blanks and repetitions. -/
def spacedRequest : Request :=
  { signedRequest with
    delegateDID := ascii " did:jwk:Ag\t"
    permissions := [ascii " mesh-node", [], ascii "mesh-node"] }

theorem spacedRequest_message :
    (Submission.request spacedRequest).call.text.message =
      (Submission.request draftRequest).call.text.message := by
  have hdelegate : trimSpace (ascii " did:jwk:Ag\t") = trimSpace (ascii "did:jwk:Ag") := by
    decide +kernel
  have hvalues : [ascii " mesh-node", [], ascii "mesh-node"].foldl addPermission [] =
      [ascii "mesh-node"].foldl addPermission [] := by decide +kernel
  have hpermissions : permissionsProofValue [ascii " mesh-node", [], ascii "mesh-node"] =
      permissionsProofValue [ascii "mesh-node"] := by
    rw [permissionsProofValue, hvalues, permissionsProofValue]
  simp only [Submission.call, ProofCall.text, Request.delivery, nodeProofText, nodeProofFields,
    spacedRequest, signedRequest, draftRequest, hdelegate, hpermissions]

theorem echoSigner_key :
    parseURI echoPrimitives.unmarshalJWK echoPrimitives.quote (ascii "did:jwk:AQ") =
      .ok (echoPrimitives.publicKey echoSigner.privateKey) := by
  decide +kernel

theorem echoSigner_signs (message : Bytes) :
    signProof echoPrimitives (fun did => did = ascii "did:jwk:AQ") (some echoSigner) message ≠ [] := by
  have hfits : ¬ (decide (echoSigner.did = ascii "did:jwk:AQ") = false ∨
      echoSigner.privateKey.length ≠ 64) := by decide +kernel
  rw [signProof, if_neg hfits]
  intro hnil
  have hdecode := Base64.decodeBytes_encodeBytes (echoPrimitives.sign echoSigner.privateKey message)
  rw [hnil] at hdecode
  cases hdecode

theorem spacedRequest_accepted : (Submission.request spacedRequest).Accepted echoPrimitives := by
  have hsigned := echoSigner_signs (Submission.request draftRequest).call.text.message
  have hproof : spacedRequest.nodeProof =
      signProof echoPrimitives (fun did => did = ascii "did:jwk:AQ") (some echoSigner)
        (Submission.request draftRequest).call.text.message := rfl
  have hverify : verifyNodeProof echoPrimitives spacedRequest.nodeDID spacedRequest.nodeProof
      spacedRequest.challenge spacedRequest.delivery = true :=
    calc verifyNodeProof echoPrimitives spacedRequest.nodeDID spacedRequest.nodeProof
          spacedRequest.challenge spacedRequest.delivery
        = verifyProof echoPrimitives spacedRequest.nodeDID spacedRequest.nodeProof
            (Submission.request spacedRequest).call.text.message := rfl
      _ = verifyProof echoPrimitives spacedRequest.nodeDID spacedRequest.nodeProof
            (Submission.request draftRequest).call.text.message := by rw [spacedRequest_message]
      _ = true := by
          rw [hproof]
          exact verifyProof_signProof echoPrimitives_ideal hsigned echoSigner_key
  have hnode : spacedRequest.nodeDID ≠ [] := by decide +kernel
  have hchallenge : spacedRequest.challenge ≠ [] := by decide +kernel
  have hne : spacedRequest.nodeProof ≠ [] := hproof ▸ hsigned
  simp only [Submission.Accepted, Request.validate, hverify, hnode, hchallenge, hne]
  rfl

/-- The request with white space is accepted with the signature of the one without, and is about
the same fields. -/
theorem spacedRequest_signedFields :
    (Submission.request spacedRequest).signedFields =
      (Submission.request signedRequest).signedFields := by
  have hsigned : (Submission.request signedRequest).proof =
    (Submission.request signedRequest).sign echoPrimitives (some echoSigner) := rfl
  exact Submission.accepted_signedFields_eq echoPrimitives_ideal hsigned (echoSigner_signs _)
    (by decide +kernel) (by decide +kernel) (by decide +kernel) spacedRequest_accepted
    echoSigner_key rfl

end Meshd.Wallet

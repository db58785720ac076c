import Meshd.Dwn.Crypto.Seal

namespace Meshd.Dwn.Crypto

open Meshd.Framework

/-! Audience keys that are delivered to a role holder. -/

/-- The payload of an `$encryption/delivery` record. -/
structure DeliveryPayload where
  protocol : String
  rolePath : String
  contextID : String
  keyID : String
  keyMaterial : RoleAudienceKeyMaterial
deriving DecidableEq

namespace DeliveryPayload

def privateJwkJson (jwk : PrivateKeyJWK) : Json :=
  .obj [("kty", .str jwk.kty), ("crv", .str jwk.crv), ("x", .str jwk.x), ("d", .str jwk.d)]

def materialJson (km : RoleAudienceKeyMaterial) : Json :=
  .obj [("algorithm", .str km.algorithm), ("derivationScheme", .str km.derivationScheme),
    ("keyId", .str km.keyID), ("publicKeyJwk", AudiencePayload.jwkJson km.publicKeyJwk),
    ("privateKeyJwk", privateJwkJson km.privateKeyJwk)]

def toJson (payload : DeliveryPayload) : Json :=
  .obj [("protocol", .str payload.protocol), ("rolePath", .str payload.rolePath),
    ("contextId", .str payload.contextID), ("keyId", .str payload.keyID),
    ("keyMaterial", materialJson payload.keyMaterial)]

def privateJwkOfJson : Json → Option PrivateKeyJWK
  | .obj fields => do
    return ⟨← Json.stringMember "kty" fields, ← Json.stringMember "crv" fields,
      ← Json.stringMember "x" fields, ← Json.stringMember "d" fields⟩
  | .null => some ⟨"", "", "", ""⟩
  | _ => none

def materialOfJson : Json → Option RoleAudienceKeyMaterial
  | .obj fields => do
    return { algorithm := ← Json.stringMember "algorithm" fields
             derivationScheme := ← Json.stringMember "derivationScheme" fields
             keyID := ← Json.stringMember "keyId" fields
             publicKeyJwk := ← AudiencePayload.jwkOfJson
               ((Json.field "publicKeyJwk" fields).getD .null)
             privateKeyJwk := ← privateJwkOfJson ((Json.field "privateKeyJwk" fields).getD .null) }
  | .null => some ⟨"", "", "", ⟨"", "", ""⟩, ⟨"", "", "", ""⟩⟩
  | _ => none

/-- A payload from JSON; members are found by their exact names. -/
def ofJson : Json → Option DeliveryPayload
  | .obj fields => do
    return { protocol := ← Json.stringMember "protocol" fields
             rolePath := ← Json.stringMember "rolePath" fields
             contextID := ← Json.stringMember "contextId" fields
             keyID := ← Json.stringMember "keyId" fields
             keyMaterial := ← materialOfJson ((Json.field "keyMaterial" fields).getD .null) }
  | .null => some ⟨"", "", "", "", "", "", "", ⟨"", "", ""⟩, ⟨"", "", "", ""⟩⟩
  | _ => none

@[simp] theorem privateJwkOfJson_privateJwkJson (jwk : PrivateKeyJWK) :
    privateJwkOfJson (privateJwkJson jwk) = some jwk := by
  simp [privateJwkOfJson, privateJwkJson, Json.stringMember, Json.field]

@[simp] theorem materialOfJson_materialJson (km : RoleAudienceKeyMaterial) :
    materialOfJson (materialJson km) = some km := by
  simp [materialOfJson, materialJson, Json.stringMember, Json.field]

theorem ofJson_toJson (payload : DeliveryPayload) : ofJson (toJson payload) = some payload := by
  simp [ofJson, toJson, Json.stringMember, Json.field]

/-- Payloads in JSON texts. -/
def encoding : Encoding DeliveryPayload := Encoding.ofJson toJson ofJson ofJson_toJson

end DeliveryPayload

variable (c : Primitives)

def decryptDeliveryRecord (encoding : Encoding DeliveryPayload) (recipientRootKey : Bytes)
    (protocol rolePath : String) (enc : Option Encryption) (ciphertext : Bytes) :
    Except String DeliveryPayload := do
  let rolePriv ← (deriveRolePathKey c recipientRootKey protocol rolePath).mapError
    ("deriving role-path key: " ++ ·)
  let plaintext ← (decryptData c ciphertext enc rolePriv).mapError ("decrypting delivery record: " ++ ·)
  match encoding.unmarshal plaintext with
  | none => .error "parsing DeliveryPayload: invalid payload"
  | some payload =>
    if payload.protocol ≠ protocol ∨ payload.rolePath ≠ rolePath then
      .error ("delivery payload tuple (" ++ payload.protocol.quote ++ ", " ++ payload.rolePath.quote ++
        ") does not match expected (" ++ protocol.quote ++ ", " ++ rolePath.quote ++ ")")
    else if payload.keyID ≠ payload.keyMaterial.keyID then
      .error ("delivery payload keyId " ++ payload.keyID.quote ++
        " does not match keyMaterial keyId " ++
        payload.keyMaterial.keyID.quote)
    else
      verifyRoleAudienceKeyMaterial c payload.keyMaterial
      return payload

variable {c}

/-- A payload that is returned holds the key of its key ID. -/
theorem decryptDeliveryRecord_eq_ok {encoding : Encoding DeliveryPayload} {root ciphertext : Bytes}
    {protocol rolePath : String} {enc : Option Encryption} {payload : DeliveryPayload} :
    decryptDeliveryRecord c encoding root protocol rolePath enc ciphertext = .ok payload ↔
      ∃ rolePriv plaintext, deriveRolePathKey c root protocol rolePath = .ok rolePriv ∧
        decryptData c ciphertext enc rolePriv = .ok plaintext ∧
        encoding.unmarshal plaintext = some payload ∧
        payload.protocol = protocol ∧ payload.rolePath = rolePath ∧
        payload.keyID = payload.keyMaterial.keyID ∧
        verifyRoleAudienceKeyMaterial c payload.keyMaterial = .ok () := by
  simp only [decryptDeliveryRecord, bind_eq_ok, mapError_eq_ok]
  constructor
  · rintro ⟨rolePriv, hrole, plaintext, hplain, h⟩
    refine ⟨rolePriv, plaintext, hrole, hplain, ?_⟩
    split at h
    · cases h
    · next found hfound =>
      simp only [ite_error_eq_ok, not_or, not_not, bind_eq_ok] at h
      obtain ⟨⟨hprotocol, hpath⟩, hid, _, hverified, hpayload⟩ := h
      obtain rfl := Except.ok.inj hpayload
      exact ⟨hfound, hprotocol, hpath, hid, hverified⟩
  · rintro ⟨rolePriv, plaintext, hrole, hplain, hfound, hprotocol, hpath, hid, hverified⟩
    refine ⟨rolePriv, hrole, plaintext, hplain, ?_⟩
    rw [hfound]
    simp only [ite_error_eq_ok, not_or, not_not, bind_eq_ok]
    exact ⟨⟨hprotocol, hpath⟩, hid, (), hverified, rfl⟩

/-- The delivered private key, as its material encodes it. -/
theorem exists_key_of_verified {km : RoleAudienceKeyMaterial}
    (h : verifyRoleAudienceKeyMaterial c km = .ok ()) :
    ∃ key : Bytes, base64URLDecode km.privateKeyJwk.d = .ok key ∧ key.length = 32 ∧
      km.keyID = thumbprintForPublicKey c (c.x25519Base key) := by
  obtain ⟨-, -, hmaterial⟩ := verifyRoleAudienceKeyMaterial_eq_ok.mp h
  obtain ⟨key, hkey, hlen, -, hid⟩ := verifyX25519KeyMaterial_eq_ok.mp hmaterial
  exact ⟨key, hkey, hlen, hid⟩

/-! ### What is written for a role holder -/

/-- The one recipient of a delivery, by the key of its role path. -/
def deliveryRecipient (rolePub : Bytes) : KeyEncryptionInput where
  publicKey := rolePub
  derivationScheme := derivationSchemeProtocolPath

/-- A payload that passes its checks comes back from a record that is wrapped to the role-path key. -/
theorem decryptDeliveryRecord_encryptData {encoding : Encoding DeliveryPayload}
    {root rolePriv ct : Bytes} {payload : DeliveryPayload} {entropy : Entropy} {enc : Encryption}
    (hrole : deriveRolePathKey c root payload.protocol payload.rolePath = .ok rolePriv)
    (hlen : rolePriv.length = 32) (hid : payload.keyID = payload.keyMaterial.keyID)
    (hverified : verifyRoleAudienceKeyMaterial c payload.keyMaterial = .ok ())
    (h : encryptData c entropy (encoding.marshal payload)
      [deliveryRecipient (c.x25519Base rolePriv)] = .ok (ct, enc)) :
    decryptDeliveryRecord c encoding root payload.protocol payload.rolePath (some enc) ct =
      .ok payload := by
  obtain ⟨cek, hseals⟩ := seals_of_encryptData h
  have hthumb : ThumbprintsDiffer c [deliveryRecipient (c.x25519Base rolePriv)] := by
    intro r hr r' hr' _
    rw [List.mem_singleton.mp hr, List.mem_singleton.mp hr']
  have hplain : decryptData c ct (some enc) rolePriv = .ok (encoding.marshal payload) :=
    hseals.decryptData_holder hthumb List.mem_cons_self rfl hlen rfl
  exact decryptDeliveryRecord_eq_ok.mpr ⟨rolePriv, _, hrole, hplain, encoding.unmarshal_marshal payload,
    rfl, rfl, hid, hverified⟩

theorem wrapCEKEntry_ok {rolePub shared wrapped cek : Bytes} {ephPriv : Buffer 32}
    (hpub : rolePub.length = 32) (hshared : c.x25519 ephPriv.val rolePub = some shared)
    (hwrapped : aesKeyWrap c (c.hkdf shared (protocolPathKEKInfo (thumbprintForPublicKey c rolePub)))
      cek = .ok wrapped) :
    ∃ entry, wrapCEKEntry c (.ok ephPriv) cek (deliveryRecipient rolePub) = .ok entry := by
  have hagreed : x25519SharedSecret c ephPriv.val rolePub = .ok shared :=
    x25519SharedSecret_eq_ok.mpr ⟨ephPriv.property, hpub, hshared⟩
  have hwrap : wrapCEK c (.ok ephPriv) rolePub cek
      (protocolPathKEKInfo (thumbprintForPublicKey c rolePub)) =
        .ok (c.x25519Base ephPriv.val, wrapped) := by
    rw [wrapCEK, generateX25519KeyPair, mapError_ok, ok_bind]
    change ((x25519SharedSecret c ephPriv.val rolePub).mapError _ >>= _) = _
    rw [hagreed, mapError_ok, ok_bind, deriveKEK, hwrapped, mapError_ok, ok_bind]
    rfl
  rw [wrapCEKEntry, if_neg (by simpa [deliveryRecipient, x25519KeySize] using hpub)]
  change ∃ entry, ((wrapCEK c (.ok ephPriv) rolePub cek
    (protocolPathKEKInfo (thumbprintForPublicKey c rolePub))).mapError _ >>= _) = .ok entry
  rw [hwrap, mapError_ok, ok_bind]
  exact ⟨_, rfl⟩

/-- Encryption to one recipient fails for a point of low order only. -/
theorem exists_encryptData {rolePub shared : Bytes} {ephPriv : Buffer 32} (cek : Buffer 32)
    (iv : Buffer 16) (hpub : rolePub.length = 32)
    (hshared : c.x25519 ephPriv.val rolePub = some shared) (plaintext : Bytes) :
    ∃ ct enc, encryptData c ⟨.ok cek, .ok iv, fun _ => .ok ephPriv⟩ plaintext
      [deliveryRecipient rolePub] = .ok (ct, enc) ∧ ct.length = plaintext.length := by
  obtain ⟨wrapped, hwrapped⟩ := exists_aesKeyWrap (c := c)
    (c.length_hkdf shared (protocolPathKEKInfo (thumbprintForPublicKey c rolePub))) cek.property
  obtain ⟨entry, hentry⟩ := wrapCEKEntry_ok hpub hshared hwrapped
  have hentries : wrapCEKEntries c (fun _ => .ok ephPriv) cek.val 0 [deliveryRecipient rolePub] =
      .ok [entry] := by
    rw [wrapCEKEntries, hentry, ok_bind]
    rfl
  have h : encryptData c ⟨.ok cek, .ok iv, fun _ => .ok ephPriv⟩ plaintext
      [deliveryRecipient rolePub] = .ok (xorBytes plaintext (keyStream (c.aes cek.val) iv.val
        ((plaintext.length + 15) / 16)), ⟨encA256CTR, Base64.rawURLEncode iv.val, [entry]⟩) := by
    rw [encryptData, if_neg (by simp), mapError_ok, ok_bind, mapError_ok, ok_bind,
      ctrXor_ok cek.property iv.property, mapError_ok, ok_bind, hentries, ok_bind]
    rfl
  refine ⟨_, _, h, ?_⟩
  rw [length_xorBytes, length_keyStream]
  omega

end Meshd.Dwn.Crypto

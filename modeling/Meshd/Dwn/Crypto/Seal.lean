import Meshd.Dwn.Crypto.KeyMaterial
import Meshd.Dwn.Crypto.RoundTrip

namespace Meshd.Dwn.Crypto

open Meshd.Framework

/-! Audience keys sealed to the key of a role path. -/

def derivationSchemeSeal : String := "seal"

structure SealKeyWrap where
  algorithm : String
  derivationScheme : String
  encryptedKey : String
  ephemeralPublicKey : Option PublicKeyJWK
  keyID : String
deriving DecidableEq

/-- The payload of an `$encryption/audience` record. -/
structure AudiencePayload where
  protocol : String
  rolePath : String
  contextID : String
  keyID : String
  publicKeyJwk : PublicKeyJWK
  sealedPrivateKey : SealKeyWrap
deriving DecidableEq

def sealKEKInfo (protocol rolePath contextID audienceKeyID : String) : String :=
  kekInfoJSON [algX25519HKDFA256KW, derivationSchemeSeal, protocol, rolePath, contextID,
    audienceKeyID]

variable (c : Primitives)

def sealAudiencePrivateKey (read : Except String (Buffer 32))
    (audiencePrivateKey sealingPublicKey : Bytes)
    (protocol rolePath contextID audienceKeyID : String) : Except String SealKeyWrap :=
  if audiencePrivateKey.length ≠ x25519KeySize then
    .error ("audience private key must be 32 bytes, got " ++ toString audiencePrivateKey.length)
  else if sealingPublicKey.length ≠ x25519KeySize then
    .error ("sealing public key must be 32 bytes, got " ++ toString sealingPublicKey.length)
  else do
    let info := sealKEKInfo protocol rolePath contextID audienceKeyID
    let (ephPub, wrapped) ← (wrapCEK c read sealingPublicKey audiencePrivateKey info).mapError
      ("sealing audience private key: " ++ ·)
    return { algorithm := algX25519HKDFA256KW
             derivationScheme := derivationSchemeSeal
             encryptedKey := Base64.rawURLEncode wrapped
             ephemeralPublicKey := some ⟨"OKP", "X25519", Base64.rawURLEncode ephPub⟩
             keyID := thumbprintForPublicKey c sealingPublicKey }

def unsealAudiencePrivateKey (sealing : SealKeyWrap) (sealingPrivateKey : Bytes)
    (protocol rolePath contextID audienceKeyID : String) : Except String Bytes :=
  if sealing.algorithm ≠ algX25519HKDFA256KW then
    .error ("unsupported seal algorithm " ++ sealing.algorithm.quote)
  else if sealing.derivationScheme ≠ derivationSchemeSeal then
    .error ("unexpected seal derivation scheme " ++ sealing.derivationScheme.quote)
  else match sealing.ephemeralPublicKey with
    | none => .error "seal missing ephemeralPublicKey"
    | some jwk => do
      let ephPub ← (base64URLDecode jwk.x).mapError ("decoding seal ephemeralPublicKey: " ++ ·)
      let wrapped ← (base64URLDecode sealing.encryptedKey).mapError
        ("decoding seal encryptedKey: " ++ ·)
      let info := sealKEKInfo protocol rolePath contextID audienceKeyID
      let priv ← (unwrapCEK c sealingPrivateKey ephPub wrapped info).mapError
        ("unsealing audience private key: " ++ ·)
      if priv.length ≠ x25519KeySize then
        .error ("unsealed audience private key must be 32 bytes, got " ++ toString priv.length)
      else .ok priv

def verifyAudiencePayload (payload : AudiencePayload) : Except String Unit :=
  let got := jwkThumbprintX25519 c payload.publicKeyJwk.x
  if payload.rolePath = "" then .error "audience payload missing rolePath"
  else if payload.publicKeyJwk.kty ≠ "OKP" ∨ payload.publicKeyJwk.crv ≠ "X25519" ∨
      payload.publicKeyJwk.x = "" then
    .error "audience payload publicKeyJwk must be an OKP X25519 key"
  else if got ≠ payload.keyID then
    .error ("audience keyId " ++ payload.keyID.quote ++ " does not match publicKeyJwk thumbprint " ++
      got.quote)
  else if payload.sealedPrivateKey.derivationScheme ≠ derivationSchemeSeal then
    .error ("audience sealedPrivateKey derivationScheme must be " ++ derivationSchemeSeal.quote)
  else .ok ()

def unsealAudienceRecord (payload : AudiencePayload) (sealingPrivateKey : Bytes) :
    Except String Bytes := do
  verifyAudiencePayload c payload
  let sealingPub ← x25519PublicKey c sealingPrivateKey
  let want := thumbprintForPublicKey c sealingPub
  if payload.sealedPrivateKey.keyID ≠ want then
    .error ("audience seal targets key " ++ payload.sealedPrivateKey.keyID.quote ++
      ", sealing key is " ++ want.quote)
  else
    let audiencePriv ← unsealAudiencePrivateKey c payload.sealedPrivateKey sealingPrivateKey
      payload.protocol payload.rolePath payload.contextID payload.keyID
    let pub ← x25519PublicKey c audiencePriv
    if Base64.rawURLEncode pub ≠ payload.publicKeyJwk.x then
      .error "unsealed audience private key does not derive the advertised public key"
    else .ok audiencePriv

def generateAudienceKey (read : Except String (Buffer 32)) :
    Except String RoleAudienceKeyMaterial := do
  let (priv, pub) ← generateX25519KeyPair c read
  let x := Base64.rawURLEncode pub
  return { algorithm := algX25519HKDFA256KW
           derivationScheme := derivationSchemeRoleAudience
           keyID := jwkThumbprintX25519 c x
           publicKeyJwk := ⟨"OKP", "X25519", x⟩
           privateKeyJwk := ⟨"OKP", "X25519", x, Base64.rawURLEncode priv⟩ }

def buildAudiencePayload (read : Except String (Buffer 32)) (km : RoleAudienceKeyMaterial)
    (sealingPublicKey : Bytes) (protocol rolePath contextID : String) :
    Except String AudiencePayload := do
  verifyRoleAudienceKeyMaterial c km
  let priv ← (base64URLDecode km.privateKeyJwk.d).mapError ("decoding audience private key: " ++ ·)
  let sealing ← sealAudiencePrivateKey c read priv sealingPublicKey protocol rolePath contextID km.keyID
  return { protocol, rolePath, contextID, keyID := km.keyID, publicKeyJwk := km.publicKeyJwk
           sealedPrivateKey := sealing }

/-! ### The JSON of a payload -/

namespace AudiencePayload

def jwkJson (jwk : PublicKeyJWK) : Json :=
  .obj [("kty", .str jwk.kty), ("crv", .str jwk.crv), ("x", .str jwk.x)]

def sealJson (sealing : SealKeyWrap) : Json :=
  .obj [("algorithm", .str sealing.algorithm), ("derivationScheme", .str sealing.derivationScheme),
    ("encryptedKey", .str sealing.encryptedKey),
    ("ephemeralPublicKey", (sealing.ephemeralPublicKey.map jwkJson).getD .null),
    ("keyId", .str sealing.keyID)]

def toJson (payload : AudiencePayload) : Json :=
  .obj [("protocol", .str payload.protocol), ("rolePath", .str payload.rolePath),
    ("contextId", .str payload.contextID), ("keyId", .str payload.keyID),
    ("publicKeyJwk", jwkJson payload.publicKeyJwk),
    ("sealedPrivateKey", sealJson payload.sealedPrivateKey)]

def jwkOfJson : Json → Option PublicKeyJWK
  | .obj fields => do
    return ⟨← Json.stringMember "kty" fields, ← Json.stringMember "crv" fields,
      ← Json.stringMember "x" fields⟩
  | .null => some ⟨"", "", ""⟩
  | _ => none

/-- A pointer, nil where the member is absent or `null`. -/
def pointerOfJson : Option Json → Option (Option PublicKeyJWK)
  | none => some none
  | some .null => some none
  | some v => (jwkOfJson v).map some

def sealOfJson : Json → Option SealKeyWrap
  | .obj fields => do
    return { algorithm := ← Json.stringMember "algorithm" fields
             derivationScheme := ← Json.stringMember "derivationScheme" fields
             encryptedKey := ← Json.stringMember "encryptedKey" fields
             ephemeralPublicKey := ← pointerOfJson (Json.field "ephemeralPublicKey" fields)
             keyID := ← Json.stringMember "keyId" fields }
  | .null => some ⟨"", "", "", none, ""⟩
  | _ => none

/-- A payload from JSON; members are found by their exact names. -/
def ofJson : Json → Option AudiencePayload
  | .obj fields => do
    return { protocol := ← Json.stringMember "protocol" fields
             rolePath := ← Json.stringMember "rolePath" fields
             contextID := ← Json.stringMember "contextId" fields
             keyID := ← Json.stringMember "keyId" fields
             publicKeyJwk := ← jwkOfJson ((Json.field "publicKeyJwk" fields).getD .null)
             sealedPrivateKey := ← sealOfJson ((Json.field "sealedPrivateKey" fields).getD .null) }
  | .null => some ⟨"", "", "", "", ⟨"", "", ""⟩, ⟨"", "", "", none, ""⟩⟩
  | _ => none

@[simp] theorem jwkOfJson_jwkJson (jwk : PublicKeyJWK) : jwkOfJson (jwkJson jwk) = some jwk := by
  simp [jwkOfJson, jwkJson, Json.stringMember, Json.field]

@[simp] theorem sealOfJson_sealJson (sealing : SealKeyWrap) :
    sealOfJson (sealJson sealing) = some sealing := by
  obtain ⟨algorithm, derivationScheme, encryptedKey, ephemeralPublicKey, keyID⟩ := sealing
  cases ephemeralPublicKey with
  | none => simp [sealOfJson, sealJson, Json.stringMember, Json.field, pointerOfJson]
  | some jwk =>
    have hjwk : pointerOfJson (some (jwkJson jwk)) = some (some jwk) := by
      rw [jwkJson, pointerOfJson, ← jwkJson, jwkOfJson_jwkJson]
      · rfl
      · simp
    simp [sealOfJson, sealJson, Json.stringMember, Json.field, hjwk]

theorem ofJson_toJson (payload : AudiencePayload) : ofJson (toJson payload) = some payload := by
  simp [ofJson, toJson, Json.stringMember, Json.field]

/-- Payloads in JSON texts. -/
def encoding : Encoding AudiencePayload := Encoding.ofJson toJson ofJson ofJson_toJson

end AudiencePayload

/-! ### Info texts -/

/-- The texts of an array after its first one, and the closing bracket. -/
def arrayTail : List String → List Char
  | [] => [']']
  | text :: rest => ',' :: '"' :: (text.toList.flatMap JsonText.escapePlain ++ '"' :: arrayTail rest)

theorem toList_jsonString (text : String) :
    (jsonString text).toList = '"' :: (text.toList.flatMap JsonText.escapePlain ++ ['"']) := by
  simp [jsonString]

theorem toList_kekInfoJSON (text : String) (rest : List String) :
    (kekInfoJSON (text :: rest)).toList =
      '[' :: '"' :: (text.toList.flatMap JsonText.escapePlain ++ '"' :: arrayTail rest) := by
  have hopen : "[".toList = ['['] := rfl
  have hcomma : ",".toList = [','] := rfl
  have hclose : "]".toList = [']'] := rfl
  induction rest generalizing text with
  | nil =>
    simp only [kekInfoJSON, List.map_cons, List.map_nil, String.intercalate_singleton,
      String.toList_append, toList_jsonString, hopen, hclose, arrayTail, List.cons_append,
      List.append_assoc, List.nil_append]
  | cons next rest ih =>
    have hnext := ih next
    simp only [kekInfoJSON, List.map_cons, String.intercalate_cons_cons, String.toList_append,
      toList_jsonString, hopen, hcomma, hclose, arrayTail, List.cons_append, List.append_assoc,
      List.nil_append, List.cons.injEq, true_and] at hnext ⊢
    rw [hnext]

theorem arrayTail_injective {texts texts' : List String} (h : arrayTail texts = arrayTail texts') :
    texts = texts' := by
  induction texts generalizing texts' with
  | nil =>
    cases texts' with
    | nil => rfl
    | cons text' rest' => simp [arrayTail] at h
  | cons text rest ih =>
    cases texts' with
    | nil => simp [arrayTail] at h
    | cons text' rest' =>
      simp only [arrayTail, List.cons.injEq, true_and] at h
      have hread := congrArg JsonText.stringBody h
      rw [JsonText.stringBody_flatMap JsonText.escapes_escapePlain,
        JsonText.stringBody_flatMap JsonText.escapes_escapePlain, String.ofList_toList,
        String.ofList_toList] at hread
      obtain ⟨rfl, hrest⟩ := Prod.mk.inj (Option.some.inj hread)
      rw [ih hrest]

/-- An info text names its elements. -/
theorem kekInfoJSON_injective {text text' : String} {rest rest' : List String}
    (h : kekInfoJSON (text :: rest) = kekInfoJSON (text' :: rest')) :
    text :: rest = text' :: rest' := by
  have hlist := congrArg String.toList h
  rw [toList_kekInfoJSON, toList_kekInfoJSON] at hlist
  apply arrayTail_injective
  rw [arrayTail, arrayTail, (List.cons.inj hlist).2]

theorem sealKEKInfo_injective {protocol rolePath contextID keyID protocol' rolePath' contextID'
    keyID' : String}
    (h : sealKEKInfo protocol rolePath contextID keyID =
      sealKEKInfo protocol' rolePath' contextID' keyID') :
    protocol = protocol' ∧ rolePath = rolePath' ∧ contextID = contextID' ∧ keyID = keyID' := by
  have helems := kekInfoJSON_injective h
  simp only [List.cons.injEq, true_and, and_true] at helems
  exact helems

/-! ### What opens a seal -/

section Opening

variable {c} {key pub priv : Bytes} {payload : AudiencePayload} {protocol rolePath contextID : String}
  {km : RoleAudienceKeyMaterial}

theorem unwrapCEK_eq_ok {ephPub wrapped : Bytes} {info : String} :
    unwrapCEK c priv ephPub wrapped info = .ok key ↔
      priv.length = 32 ∧ ephPub.length = 32 ∧
      ∃ shared, c.x25519 priv ephPub = some shared ∧
        aesKeyUnwrap c (c.hkdf shared info) wrapped = .ok key := by
  simp only [unwrapCEK, bind_eq_ok, mapError_eq_ok, x25519SharedSecret_eq_ok, deriveKEK]
  constructor
  · rintro ⟨shared, ⟨hpriv, hpub, hshared⟩, hkey⟩
    exact ⟨hpriv, hpub, shared, hshared, hkey⟩
  · rintro ⟨hpriv, hpub, shared, hshared, hkey⟩
    exact ⟨shared, ⟨hpriv, hpub, hshared⟩, hkey⟩

theorem unsealAudiencePrivateKey_eq_ok {sealing : SealKeyWrap} {keyID : String} :
    unsealAudiencePrivateKey c sealing priv protocol rolePath contextID keyID = .ok key ↔
      sealing.algorithm = algX25519HKDFA256KW ∧ sealing.derivationScheme = derivationSchemeSeal ∧
      ∃ jwk ephPub wrapped, sealing.ephemeralPublicKey = some jwk ∧
        base64URLDecode jwk.x = .ok ephPub ∧ base64URLDecode sealing.encryptedKey = .ok wrapped ∧
        unwrapCEK c priv ephPub wrapped (sealKEKInfo protocol rolePath contextID keyID) = .ok key ∧
        key.length = 32 := by
  simp only [unsealAudiencePrivateKey, ite_error_eq_ok, not_not]
  cases sealing.ephemeralPublicKey with
  | none => simp
  | some jwk =>
    simp only [bind_eq_ok, mapError_eq_ok, ite_error_eq_ok, not_not, Option.some.injEq,
      Except.ok.injEq]
    constructor
    · rintro ⟨halg, hscheme, ephPub, heph, wrapped, hwrapped, _, hkey, hlen, rfl⟩
      exact ⟨halg, hscheme, jwk, ephPub, wrapped, rfl, heph, hwrapped, hkey, hlen⟩
    · rintro ⟨halg, hscheme, _, ephPub, wrapped, rfl, heph, hwrapped, hkey, hlen⟩
      exact ⟨halg, hscheme, ephPub, heph, wrapped, hwrapped, key, hkey, hlen, rfl⟩

theorem verifyAudiencePayload_eq_ok :
    verifyAudiencePayload c payload = .ok () ↔
      payload.rolePath ≠ "" ∧ payload.publicKeyJwk.kty = "OKP" ∧
      payload.publicKeyJwk.crv = "X25519" ∧ payload.publicKeyJwk.x ≠ "" ∧
      jwkThumbprintX25519 c payload.publicKeyJwk.x = payload.keyID ∧
      payload.sealedPrivateKey.derivationScheme = derivationSchemeSeal := by
  simp only [verifyAudiencePayload, ite_error_eq_ok, not_or, not_not, and_true, and_assoc, ne_eq]

theorem unsealAudienceRecord_eq_ok :
    unsealAudienceRecord c payload priv = .ok key ↔
      verifyAudiencePayload c payload = .ok () ∧ priv.length = 32 ∧
      payload.sealedPrivateKey.keyID = thumbprintForPublicKey c (c.x25519Base priv) ∧
      unsealAudiencePrivateKey c payload.sealedPrivateKey priv payload.protocol payload.rolePath
        payload.contextID payload.keyID = .ok key ∧
      payload.publicKeyJwk.x = Base64.rawURLEncode (c.x25519Base key) := by
  simp only [unsealAudienceRecord, bind_eq_ok, x25519PublicKey_eq_ok, ite_error_eq_ok, not_not,
    Except.ok.injEq]
  constructor
  · rintro ⟨_, hverified, pub, ⟨hlen, rfl⟩, htarget, _, hkey, pub', ⟨hkeylen, rfl⟩, hx, rfl⟩
    exact ⟨hverified, hlen, htarget, hkey, hx.symm⟩
  · rintro ⟨hverified, hlen, htarget, hkey, hx⟩
    obtain ⟨-, -, _, _, _, -, -, -, -, hkeylen⟩ := unsealAudiencePrivateKey_eq_ok.mp hkey
    exact ⟨(), hverified, _, ⟨hlen, rfl⟩, htarget, key, hkey, _, ⟨hkeylen, rfl⟩, hx.symm, rfl⟩

/-- What is unsealed is the key that the payload advertises. -/
theorem unsealed_key (h : unsealAudienceRecord c payload priv = .ok key) :
    key.length = 32 ∧ payload.publicKeyJwk = publicJWK (c.x25519Base key) ∧
      payload.keyID = thumbprintForPublicKey c (c.x25519Base key) := by
  obtain ⟨hverified, -, -, hkey, hx⟩ := unsealAudienceRecord_eq_ok.mp h
  obtain ⟨-, hkty, hcrv, -, hid, -⟩ := verifyAudiencePayload_eq_ok.mp hverified
  obtain ⟨-, -, _, _, _, -, -, -, -, hlen⟩ := unsealAudiencePrivateKey_eq_ok.mp hkey
  refine ⟨hlen, ?_, ?_⟩
  · rw [publicJWK, ← hkty, ← hcrv, ← hx]
  · rw [← hid, hx, thumbprintForPublicKey]

/-- The info text that a payload's seal is bound to. -/
def AudiencePayload.info (payload : AudiencePayload) : String :=
  sealKEKInfo payload.protocol payload.rolePath payload.contextID payload.keyID

/-- The payload of an audience key that is sealed to a public key. -/
structure SealsAudience (c : Primitives) (key pub : Bytes) (payload : AudiencePayload) : Prop where
  length : key.length = 32
  keyID : payload.keyID = thumbprintForPublicKey c (c.x25519Base key)
  publicKeyJwk : payload.publicKeyJwk = publicJWK (c.x25519Base key)
  algorithm : payload.sealedPrivateKey.algorithm = algX25519HKDFA256KW
  scheme : payload.sealedPrivateKey.derivationScheme = derivationSchemeSeal
  target : payload.sealedPrivateKey.keyID = thumbprintForPublicKey c pub
  /-- The key is wrapped under what the sealing key agrees on with an ephemeral one. -/
  wrapped : ∃ (ephPriv : Buffer 32) (shared wrapped : Bytes),
    c.x25519 ephPriv.val pub = some shared ∧
    aesKeyWrap c (c.hkdf shared payload.info) key = .ok wrapped ∧
    payload.sealedPrivateKey.encryptedKey = Base64.rawURLEncode wrapped ∧
    payload.sealedPrivateKey.ephemeralPublicKey = some (publicJWK (c.x25519Base ephPriv.val))

theorem buildAudiencePayload_eq_ok {read : Except String (Buffer 32)}
    (h : buildAudiencePayload c read km pub protocol rolePath contextID = .ok payload) :
    ∃ key, base64URLDecode km.privateKeyJwk.d = .ok key ∧ SealsAudience c key pub payload ∧
      payload.protocol = protocol ∧ payload.rolePath = rolePath ∧ payload.contextID = contextID := by
  simp only [buildAudiencePayload, bind_eq_ok, mapError_eq_ok] at h
  obtain ⟨_, hverified, key, hkey, sealing, hseal, hpayload⟩ := h
  obtain rfl := Except.ok.inj hpayload
  obtain ⟨-, -, hmaterial⟩ := verifyRoleAudienceKeyMaterial_eq_ok.mp hverified
  obtain ⟨_, hkey', hlen, hjwk, hid⟩ := verifyX25519KeyMaterial_eq_ok.mp hmaterial
  obtain rfl := Except.ok.inj (hkey.symm.trans hkey')
  simp only [sealAudiencePrivateKey, ite_error_eq_ok, bind_eq_ok, mapError_eq_ok] at hseal
  obtain ⟨-, -, ⟨ephPub, wrapped⟩, hwrap, hsealing⟩ := hseal
  obtain rfl := Except.ok.inj hsealing
  obtain ⟨ephPriv, shared, hshared, hwrapped, rfl⟩ := wrapCEK_eq_ok hwrap
  refine ⟨key, hkey, ⟨hlen, hid, hjwk, rfl, rfl, rfl, ?_⟩, rfl, rfl, rfl⟩
  exact ⟨ephPriv, shared, wrapped, hshared, hwrapped, rfl, rfl⟩

theorem exists_aesKeyWrap {kek : Bytes} (hkek : kek.length = 32) (hkey : key.length = 32) :
    ∃ wrapped, aesKeyWrap c kek key = .ok wrapped := by
  rw [aesKeyWrap, if_neg (by omega)]
  dsimp only
  rw [if_neg (by omega), newCipher_ok hkek, mapError_ok, ok_bind]
  exact ⟨_, rfl⟩

theorem buildAudiencePayload_ok {shared wrapped : Bytes} {ephPriv : Buffer 32}
    (hverified : verifyRoleAudienceKeyMaterial c km = .ok ())
    (hkey : base64URLDecode km.privateKeyJwk.d = .ok key) (hlen : key.length = 32)
    (hpub : pub.length = 32) (hshared : c.x25519 ephPriv.val pub = some shared)
    (hwrapped : aesKeyWrap c (c.hkdf shared (sealKEKInfo protocol rolePath contextID km.keyID)) key =
      .ok wrapped) :
    buildAudiencePayload c (.ok ephPriv) km pub protocol rolePath contextID =
      .ok { protocol, rolePath, contextID, keyID := km.keyID, publicKeyJwk := km.publicKeyJwk
            sealedPrivateKey :=
              { algorithm := algX25519HKDFA256KW
                derivationScheme := derivationSchemeSeal
                encryptedKey := Base64.rawURLEncode wrapped
                ephemeralPublicKey := some (publicJWK (c.x25519Base ephPriv.val))
                keyID := thumbprintForPublicKey c pub } } := by
  have hsecret : x25519SharedSecret c ephPriv.val pub = .ok shared :=
    x25519SharedSecret_eq_ok.mpr ⟨ephPriv.property, hpub, hshared⟩
  have hwrap : wrapCEK c (.ok ephPriv) pub key (sealKEKInfo protocol rolePath contextID km.keyID) =
      .ok (c.x25519Base ephPriv.val, wrapped) := by
    rw [wrapCEK, generateX25519KeyPair, mapError_ok, ok_bind]
    simp only [pure, Except.pure, mapError_ok, ok_bind, hsecret, deriveKEK, hwrapped]
  rw [buildAudiencePayload, hverified, ok_bind, hkey, mapError_ok, ok_bind, sealAudiencePrivateKey]
  simp only [x25519KeySize, hlen, hpub, ne_eq, not_true_eq_false, if_false, hwrap, mapError_ok, ok_bind,
    pure, Except.pure]
  rfl

/-- Sealing fails for a point of low order only. -/
theorem exists_buildAudiencePayload {shared : Bytes} {ephPriv : Buffer 32}
    (hverified : verifyRoleAudienceKeyMaterial c km = .ok ()) (hpub : pub.length = 32)
    (hshared : c.x25519 ephPriv.val pub = some shared) (protocol rolePath contextID : String) :
    ∃ payload, buildAudiencePayload c (.ok ephPriv) km pub protocol rolePath contextID =
      .ok payload := by
  obtain ⟨-, -, hmaterial⟩ := verifyRoleAudienceKeyMaterial_eq_ok.mp hverified
  obtain ⟨key, hkey, hlen, -, -⟩ := verifyX25519KeyMaterial_eq_ok.mp hmaterial
  have hkek := c.length_hkdf shared (sealKEKInfo protocol rolePath contextID km.keyID)
  obtain ⟨wrapped, hwrapped⟩ := exists_aesKeyWrap (c := c) hkek hlen
  exact ⟨_, buildAudiencePayload_ok hverified hkey hlen hpub hshared hwrapped⟩

/-- Fresh key material passes its own check. -/
theorem generateAudienceKey_ok (key : Buffer 32) : ∃ km, generateAudienceKey c (.ok key) = .ok km ∧
    km.privateKeyJwk.d = Base64.rawURLEncode key.val ∧
    verifyRoleAudienceKeyMaterial c km = .ok () := by
  refine ⟨_, rfl, rfl, verifyRoleAudienceKeyMaterial_eq_ok.mpr ⟨rfl, rfl, ?_⟩⟩
  exact verifyX25519KeyMaterial_eq_ok.mpr
    ⟨key.val, base64URLDecode_rawURLEncode _, key.property, rfl, rfl⟩

namespace SealsAudience

/-- What the sealing key finds in the seal. -/
theorem agreed (h : SealsAudience c key pub payload) (hlen : priv.length = 32)
    (hpub : c.x25519Base priv = pub) :
    ∃ (jwk : PublicKeyJWK) (ephPub shared wrapped : Bytes),
      payload.sealedPrivateKey.ephemeralPublicKey = some jwk ∧
      base64URLDecode jwk.x = .ok ephPub ∧ ephPub.length = 32 ∧
      c.x25519 priv ephPub = some shared ∧
      base64URLDecode payload.sealedPrivateKey.encryptedKey = .ok wrapped ∧
      aesKeyUnwrap c (c.hkdf shared payload.info) wrapped = .ok key := by
  obtain ⟨ephPriv, shared, wrapped, hshared, hwrap, henc, heph⟩ := h.wrapped
  refine ⟨_, c.x25519Base ephPriv.val, shared, wrapped, heph, base64URLDecode_rawURLEncode _,
    c.length_x25519Base _ ephPriv.property, ?_, ?_, ?_⟩
  · rw [c.x25519_comm _ _ hlen ephPriv.property, hpub, hshared]
  · rw [henc, base64URLDecode_rawURLEncode]
  · exact aesKeyUnwrap_aesKeyWrap hwrap (by rw [h.length]; decide)

/-- The payload passes the checks on it. -/
theorem verified (h : SealsAudience c key pub payload) (hrole : payload.rolePath ≠ "") :
    verifyAudiencePayload c payload = .ok () := by
  have hne : c.x25519Base key ≠ [] := by
    rw [← List.length_pos_iff, c.length_x25519Base key h.length]
    decide
  rw [verifyAudiencePayload_eq_ok, h.publicKeyJwk, h.keyID, h.scheme]
  exact ⟨hrole, rfl, rfl, Base64.rawURLEncode_ne_empty hne, rfl, rfl⟩

/-- The sealing key opens the seal. -/
theorem opens (h : SealsAudience c key pub payload) (hrole : payload.rolePath ≠ "")
    (hlen : priv.length = 32) (hpub : c.x25519Base priv = pub) :
    unsealAudienceRecord c payload priv = .ok key := by
  obtain ⟨jwk, ephPub, shared, wrapped, heph, hdecode, hephlen, hshared, hwrapped, hunwrap⟩ :=
    h.agreed hlen hpub
  have hkey : unwrapCEK c priv ephPub wrapped payload.info = .ok key :=
    unwrapCEK_eq_ok.mpr ⟨hlen, hephlen, shared, hshared, hunwrap⟩
  rw [unsealAudienceRecord_eq_ok]
  refine ⟨h.verified hrole, hlen, by rw [h.target, hpub], ?_, by rw [h.publicKeyJwk]; rfl⟩
  exact unsealAudiencePrivateKey_eq_ok.mpr ⟨h.algorithm, h.scheme, jwk, ephPub, wrapped, heph, hdecode,
    hwrapped, hkey, h.length⟩

/-- A key with another public half does not. -/
theorem not_opens (h : SealsAudience c key pub payload)
    (hother : priv.length = 32 → c.x25519Base priv ≠ pub)
    (hthumb : thumbprintForPublicKey c (c.x25519Base priv) = thumbprintForPublicKey c pub →
      c.x25519Base priv = pub) :
    ∃ e, unsealAudienceRecord c payload priv = .error e := by
  rw [exists_eq_error]
  intro opened hopened
  obtain ⟨-, hlen, htarget, -⟩ := unsealAudienceRecord_eq_ok.mp hopened
  exact hother hlen (hthumb (htarget.symm.trans h.target))

end SealsAudience

/-- The payload with one member changed, a wrapped key to one that decodes to other bytes. -/
inductive AudiencePayload.Changed (payload : AudiencePayload) : AudiencePayload → Prop
  | protocol {text : String} (h : text ≠ payload.protocol) :
    Changed payload { payload with protocol := text }
  | rolePath {text : String} (h : text ≠ payload.rolePath) :
    Changed payload { payload with rolePath := text }
  | contextID {text : String} (h : text ≠ payload.contextID) :
    Changed payload { payload with contextID := text }
  | keyID {text : String} (h : text ≠ payload.keyID) :
    Changed payload { payload with keyID := text }
  | publicKeyX {text : String} (h : text ≠ payload.publicKeyJwk.x) :
    Changed payload { payload with publicKeyJwk := { payload.publicKeyJwk with x := text } }
  | encryptedKey {text : String} {wrapped wrapped' : Bytes}
    (h : base64URLDecode payload.sealedPrivateKey.encryptedKey = .ok wrapped)
    (h' : base64URLDecode text = .ok wrapped') (hne : wrapped' ≠ wrapped) :
    Changed payload
      { payload with sealedPrivateKey := { payload.sealedPrivateKey with encryptedKey := text } }

/-- What is assumed of the primitives on a payload and a changed one: no collision of thumbprints
or of derived keys, and no key or wrapped key but the right one unwraps. -/
structure Separated (c : Primitives) (payload changed : AudiencePayload) : Prop where
  thumbprint : jwkThumbprintX25519 c changed.publicKeyJwk.x =
    jwkThumbprintX25519 c payload.publicKeyJwk.x → changed.publicKeyJwk.x = payload.publicKeyJwk.x
  info : ∀ shared, c.hkdf shared changed.info = c.hkdf shared payload.info →
    changed.info = payload.info
  wrongKEK : ∀ wrapped, base64URLDecode payload.sealedPrivateKey.encryptedKey = .ok wrapped →
    WrongKeysFail c wrapped
  wrongWrapped : ∀ wrapped wrapped',
    base64URLDecode payload.sealedPrivateKey.encryptedKey = .ok wrapped →
    base64URLDecode changed.sealedPrivateKey.encryptedKey = .ok wrapped' →
    ∀ kek key key', aesKeyUnwrap c kek wrapped = .ok key → aesKeyUnwrap c kek wrapped' = .ok key' →
      wrapped' = wrapped

namespace SealsAudience

variable {changed : AudiencePayload}

/-- A changed payload that opens is unwrapped under the info text it has now. -/
theorem opened (h : SealsAudience c key pub payload) (hlen : priv.length = 32)
    (hpub : c.x25519Base priv = pub)
    {found : Bytes} (hopen : unsealAudienceRecord c changed priv = .ok found)
    (hsame : changed.sealedPrivateKey.ephemeralPublicKey =
      payload.sealedPrivateKey.ephemeralPublicKey) :
    jwkThumbprintX25519 c changed.publicKeyJwk.x = changed.keyID ∧
    ∃ shared wrapped wrapped' : Bytes,
      base64URLDecode payload.sealedPrivateKey.encryptedKey = .ok wrapped ∧
      base64URLDecode changed.sealedPrivateKey.encryptedKey = .ok wrapped' ∧
      aesKeyUnwrap c (c.hkdf shared payload.info) wrapped = .ok key ∧
      aesKeyUnwrap c (c.hkdf shared changed.info) wrapped' = .ok found := by
  obtain ⟨jwk, ephPub, shared, wrapped, heph, hdecode, -, hshared, hwrapped, hunwrap⟩ :=
    h.agreed hlen hpub
  obtain ⟨hverified, -, -, hunseal, -⟩ := unsealAudienceRecord_eq_ok.mp hopen
  obtain ⟨-, -, jwk', ephPub', wrapped', heph', hdecode', hwrapped', hcek, -⟩ :=
    unsealAudiencePrivateKey_eq_ok.mp hunseal
  obtain ⟨-, -, shared', hshared', hfound⟩ := unwrapCEK_eq_ok.mp hcek
  obtain rfl : jwk = jwk' := Option.some.inj (heph.symm.trans (hsame.symm.trans heph'))
  obtain rfl := Except.ok.inj (hdecode.symm.trans hdecode')
  obtain rfl := Option.some.inj (hshared.symm.trans hshared')
  exact ⟨(verifyAudiencePayload_eq_ok.mp hverified).2.2.2.2.1, shared, wrapped, wrapped', hwrapped,
    hwrapped', hunwrap, hfound⟩

/-- Another info text does not open the same wrapped key. -/
theorem info_eq_of_opened (h : SealsAudience c key pub payload) (hlen : priv.length = 32)
    (hpub : c.x25519Base priv = pub) (hsep : Separated c payload changed)
    (hsame : changed.sealedPrivateKey = payload.sealedPrivateKey)
    {found : Bytes} (hopen : unsealAudienceRecord c changed priv = .ok found) :
    changed.info = payload.info := by
  obtain ⟨-, shared, wrapped, wrapped', hwrapped, hwrapped', hright, hfound⟩ :=
    h.opened hlen hpub hopen (by rw [hsame])
  rw [hsame] at hwrapped'
  obtain rfl := Except.ok.inj (hwrapped.symm.trans hwrapped')
  exact hsep.info shared (hsep.wrongKEK wrapped hwrapped _ _ (c.length_hkdf _ _) (c.length_hkdf _ _)
    _ _ hfound hright)

/-- No change of a bound member goes unnoticed. -/
theorem not_opens_changed (h : SealsAudience c key pub payload) (hlen : priv.length = 32)
    (hpub : c.x25519Base priv = pub) (hchange : payload.Changed changed)
    (hsep : Separated c payload changed) : ∃ e, unsealAudienceRecord c changed priv = .error e := by
  rw [exists_eq_error]
  intro found hopen
  have hkeyID : jwkThumbprintX25519 c payload.publicKeyJwk.x = payload.keyID := by
    rw [h.publicKeyJwk, h.keyID]
    rfl
  cases hchange with
  | protocol hne =>
    exact hne (sealKEKInfo_injective (h.info_eq_of_opened hlen hpub hsep rfl hopen)).1
  | rolePath hne =>
    exact hne (sealKEKInfo_injective (h.info_eq_of_opened hlen hpub hsep rfl hopen)).2.1
  | contextID hne =>
    exact hne (sealKEKInfo_injective (h.info_eq_of_opened hlen hpub hsep rfl hopen)).2.2.1
  | keyID hne => exact hne ((h.opened hlen hpub hopen rfl).1.symm.trans hkeyID)
  | publicKeyX hne => exact hne (hsep.thumbprint ((h.opened hlen hpub hopen rfl).1.trans hkeyID.symm))
  | encryptedKey hwrapped hwrapped' hne =>
    obtain ⟨-, shared, _, _, hw, hw', hright, hfound⟩ := h.opened hlen hpub hopen rfl
    exact hne (hsep.wrongWrapped _ _ hwrapped hwrapped' _ _ _
      (Except.ok.inj (hwrapped.symm.trans hw) ▸ hright)
      (Except.ok.inj (hwrapped'.symm.trans hw') ▸ hfound))

end SealsAudience

end Opening

end Meshd.Dwn.Crypto

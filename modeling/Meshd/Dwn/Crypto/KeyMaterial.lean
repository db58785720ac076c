import Meshd.Dwn.Crypto.Protocol

namespace Meshd.Dwn.Crypto

open Meshd.Framework

/-- The members of a `PrivateKeyJWK`, without the optional key ID that no check reads. -/
structure PrivateKeyJWK where
  kty : String
  crv : String
  x : String
  d : String
deriving DecidableEq

/-- A random key pair of a role audience, known by the thumbprint of its public half. -/
structure RoleAudienceKeyMaterial where
  algorithm : String
  derivationScheme : String
  keyID : String
  publicKeyJwk : PublicKeyJWK
  privateKeyJwk : PrivateKeyJWK
deriving DecidableEq

/-- A key of the owner's derivation tree with its path from the root. -/
structure ProtocolPathKeyMaterial where
  algorithm : String
  derivationScheme : String
  derivationPath : List String
  keyID : String
  publicKeyJwk : PublicKeyJWK
  privateKeyJwk : PrivateKeyJWK
deriving DecidableEq

variable (c : Primitives)

def verifyX25519KeyMaterial (keyID : String) (publicKeyJwk : PublicKeyJWK)
    (privateKeyJwk : PrivateKeyJWK) : Except String Unit :=
  let got := jwkThumbprintX25519 c publicKeyJwk.x
  if publicKeyJwk.kty ≠ "OKP" ∨ publicKeyJwk.crv ≠ "X25519" ∨ publicKeyJwk.x = "" then
    .error "key material publicKeyJwk must be an OKP X25519 key"
  else if got ≠ keyID then
    .error ("key material keyId " ++ keyID.quote ++ " does not match publicKeyJwk thumbprint " ++
      got.quote)
  else do
    let priv ← (base64URLDecode privateKeyJwk.d).mapError
      ("decoding key material privateKeyJwk.d: " ++ ·)
    let pub ← (x25519PublicKey c priv).mapError
      ("deriving public key from key material private key: " ++ ·)
    if Base64.rawURLEncode pub ≠ publicKeyJwk.x then
      .error "key material privateKeyJwk does not derive publicKeyJwk"
    else .ok ()

def verifyRoleAudienceKeyMaterial (km : RoleAudienceKeyMaterial) : Except String Unit :=
  if km.algorithm ≠ algX25519HKDFA256KW then
    .error ("audience key material algorithm must be " ++ algX25519HKDFA256KW.quote ++ ", got " ++
      km.algorithm.quote)
  else if km.derivationScheme ≠ derivationSchemeRoleAudience then
    .error ("audience key material derivationScheme must be " ++
      derivationSchemeRoleAudience.quote ++ ", got " ++ km.derivationScheme.quote)
  else verifyX25519KeyMaterial c km.keyID km.publicKeyJwk km.privateKeyJwk

variable {c}

theorem x25519PublicKey_eq_ok {priv pub : Bytes} :
    x25519PublicKey c priv = .ok pub ↔ priv.length = 32 ∧ pub = c.x25519Base priv := by
  rw [x25519PublicKey, ite_error_eq_ok, not_not, Except.ok.injEq, eq_comm (a := pub)]
  rfl

/-- A public JWK as the code writes it. -/
def publicJWK (pub : Bytes) : PublicKeyJWK := ⟨"OKP", "X25519", Base64.rawURLEncode pub⟩

/-- What key material passes: the encoded private half derives the public one, in its one canonical
text, and the key ID is that text's thumbprint. -/
theorem verifyX25519KeyMaterial_eq_ok {keyID : String} {pub : PublicKeyJWK} {priv : PrivateKeyJWK} :
    verifyX25519KeyMaterial c keyID pub priv = .ok () ↔
      ∃ key : Bytes, base64URLDecode priv.d = .ok key ∧ key.length = 32 ∧
        pub = publicJWK (c.x25519Base key) ∧ keyID = thumbprintForPublicKey c (c.x25519Base key) := by
  obtain ⟨kty, crv, x⟩ := pub
  simp only [verifyX25519KeyMaterial, ite_error_eq_ok, bind_eq_ok, mapError_eq_ok,
    x25519PublicKey_eq_ok, not_or, not_not, publicJWK, PublicKeyJWK.mk.injEq]
  constructor
  · rintro ⟨⟨rfl, rfl, -⟩, rfl, key, hkey, pub, ⟨hlen, rfl⟩, rfl, -⟩
    exact ⟨key, hkey, hlen, ⟨rfl, rfl, rfl⟩, rfl⟩
  · rintro ⟨key, hkey, hlen, ⟨rfl, rfl, rfl⟩, rfl⟩
    have hpub : c.x25519Base key ≠ [] := by
      rw [← List.length_pos_iff, c.length_x25519Base key hlen]
      decide
    exact ⟨⟨rfl, rfl, Base64.rawURLEncode_ne_empty hpub⟩, rfl, key, hkey, _, ⟨hlen, rfl⟩, rfl, trivial⟩

theorem verifyRoleAudienceKeyMaterial_eq_ok {km : RoleAudienceKeyMaterial} :
    verifyRoleAudienceKeyMaterial c km = .ok () ↔
      km.algorithm = algX25519HKDFA256KW ∧ km.derivationScheme = derivationSchemeRoleAudience ∧
      verifyX25519KeyMaterial c km.keyID km.publicKeyJwk km.privateKeyJwk = .ok () := by
  simp only [verifyRoleAudienceKeyMaterial, ite_error_eq_ok, not_not]

end Meshd.Dwn.Crypto

import Meshd.Control.Decryptor
import Meshd.Control.SealedAudience

namespace Meshd.Control.Sealed

open Meshd.Framework Meshd.Dwn.Crypto
open Meshd.Dwn (RecordsWriteOptions)
open Meshd.Control.Reader (twoCiphers wrappedKey wrongKeysFail_wrappedKey)

/-! Whom and what a sealed audience key opens for. -/

variable {c : Primitives}

/-- A path with a published key is not empty, and the key has its length. -/
theorem keyAgreementPublicKeyAtPath_eq_ok {protoDef : Json} {path keyID : String} {pub : Bytes}
    (h : keyAgreementPublicKeyAtPath c protoDef path = .ok (pub, keyID)) : path ≠ "" := by
  rw [keyAgreementPublicKeyAtPath, ite_error_eq_ok] at h
  exact h.1

/-- What a mint writes is sealed to the seal key of the role path. -/
theorem mintOptions_eq_ok {src : SealedAudienceSource} {entropy : MintEntropy}
    {protocol rolePath contextID : String} {payload : AudiencePayload} {opts : RecordsWriteOptions}
    (h : src.mintOptions c entropy protocol rolePath contextID = .ok (payload, opts)) :
    rolePath ≠ "" ∧ opts.data = src.reader.payload.marshal payload ∧ payload.protocol = protocol ∧
      payload.rolePath = rolePath ∧ ∃ sealKeys sealKey key, src.sealKeys = some sealKeys ∧
        sealKeys protocol rolePath = .ok sealKey ∧ sealKey.length = 32 ∧
        SealsAudience c key (c.x25519Base sealKey) payload := by
  rw [SealedAudienceSource.mintOptions] at h
  split at h
  · cases h
  · cases h
  · next sealKeys protoDef hkeys hdef =>
    simp only [bind_eq_ok, mapError_eq_ok, ite_error_eq_ok, not_not] at h
    obtain ⟨sealKey, hseal, ⟨sealingPub, keyID⟩, hpath, derived, hderived, rfl, km, -, built, hbuilt,
      hresult⟩ := h
    obtain ⟨rfl, rfl⟩ := Prod.mk.inj (Except.ok.inj hresult)
    obtain ⟨hlen, rfl⟩ := x25519PublicKey_eq_ok.mp hderived
    obtain ⟨key, -, hseals, hprotocol, hrole, -⟩ := buildAudiencePayload_eq_ok hbuilt
    exact ⟨keyAgreementPublicKeyAtPath_eq_ok hpath, rfl, hprotocol, hrole, sealKeys, sealKey, key,
      hkeys, hseal, hlen, hseals⟩

/-- An audience key that is sealed to a public key comes back with every private half of it, also
from the JSON of its payload, and with no other key; a payload with a member changed does not open;
and what a mint writes opens with its seal key. -/
theorem audience_seals (c : Primitives) :
    (∀ (read : Except String (Buffer 32)) (km : RoleAudienceKeyMaterial) (priv : Bytes)
      (protocol rolePath contextID : String) (payload : AudiencePayload),
      rolePath ≠ "" → priv.length = 32 →
      buildAudiencePayload c read km (c.x25519Base priv) protocol rolePath contextID = .ok payload →
      ∃ key, base64URLDecode km.privateKeyJwk.d = .ok key ∧
        (∀ other, other.length = 32 → c.x25519Base other = c.x25519Base priv →
          unsealAudienceRecord c payload other = .ok key ∧
          ∀ encoding : Encoding AudiencePayload, ∃ decoded,
            encoding.unmarshal (encoding.marshal payload) = some decoded ∧
            unsealAudienceRecord c decoded other = .ok key) ∧
        (∀ other, (other.length = 32 → c.x25519Base other ≠ c.x25519Base priv) →
          (thumbprintForPublicKey c (c.x25519Base other) =
            thumbprintForPublicKey c (c.x25519Base priv) → c.x25519Base other = c.x25519Base priv) →
          ∃ e, unsealAudienceRecord c payload other = .error e) ∧
        (∀ changed, payload.Changed changed → Separated c payload changed →
          ∃ e, unsealAudienceRecord c changed priv = .error e)) ∧
    (∀ (src : SealedAudienceSource) (entropy : MintEntropy) (protocol rolePath contextID : String)
      (payload : AudiencePayload) (opts : RecordsWriteOptions),
      src.mintOptions c entropy protocol rolePath contextID = .ok (payload, opts) →
      ∃ sealKeys sealKey decoded key, src.sealKeys = some sealKeys ∧
        sealKeys protocol rolePath = .ok sealKey ∧
        src.reader.payload.unmarshal opts.data = some decoded ∧
        unsealAudienceRecord c decoded sealKey = .ok key) := by
  constructor
  · intro read km priv protocol rolePath contextID payload hrole hlen hbuild
    obtain ⟨key, hkey, hseals, -, rfl, -⟩ := buildAudiencePayload_eq_ok hbuild
    refine ⟨key, hkey, fun other hother hpub => ?_, fun other hne hthumb =>
      hseals.not_opens hne hthumb, fun changed hchange hsep =>
      hseals.not_opens_changed hlen rfl hchange hsep⟩
    have hopens := hseals.opens hrole hother hpub
    exact ⟨hopens, fun encoding => ⟨payload, encoding.unmarshal_marshal payload, hopens⟩⟩
  · intro src entropy protocol rolePath contextID payload opts hmint
    obtain ⟨hne, hdata, -, rfl, sealKeys, sealKey, key, hkeys, hseal, hlen, hseals⟩ :=
      mintOptions_eq_ok hmint
    exact ⟨sealKeys, sealKey, payload, key, hkeys, hseal,
      by rw [hdata, src.reader.payload.unmarshal_marshal], hseals.opens hne hlen rfl⟩

/-! ### A tuple and its seal -/

/-- An info text with the seal of the audience key 5 for a tuple. -/
def sealedInfo : String :=
  sealKEKInfo "mesh" "network/node" "" (thumbprintForPublicKey twoCiphers (List.replicate 32 5))

/-- The two ciphers, with keys that tell one info text from all others. -/
def taggedCiphers : Primitives where
  x25519 := twoCiphers.x25519
  x25519Base := twoCiphers.x25519Base
  hkdf key info := (if info = sealedInfo then 3 else 4) :: (Buffer.copy 31 key).val
  sha256 := twoCiphers.sha256
  aes := twoCiphers.aes
  length_x25519Base := twoCiphers.length_x25519Base
  length_hkdf _ _ := by simp [(Buffer.copy 31 _).property]
  x25519_comm := twoCiphers.x25519_comm

/-- The material of the key 5. -/
def fiveMaterial : RoleAudienceKeyMaterial where
  algorithm := algX25519HKDFA256KW
  derivationScheme := derivationSchemeRoleAudience
  keyID := thumbprintForPublicKey taggedCiphers (List.replicate 32 5)
  publicKeyJwk := publicJWK (List.replicate 32 5)
  privateKeyJwk := ⟨"OKP", "X25519", Base64.rawURLEncode (List.replicate 32 5),
    Base64.rawURLEncode (List.replicate 32 5)⟩

/-- The payload of that key, sealed to the key 1 with the ephemeral key 2. -/
def fivePayload : AudiencePayload where
  protocol := "mesh"
  rolePath := "network/node"
  contextID := ""
  keyID := thumbprintForPublicKey taggedCiphers (List.replicate 32 5)
  publicKeyJwk := publicJWK (List.replicate 32 5)
  sealedPrivateKey :=
    { algorithm := algX25519HKDFA256KW
      derivationScheme := derivationSchemeSeal
      encryptedKey := Base64.rawURLEncode wrappedKey
      ephemeralPublicKey := some (publicJWK (List.replicate 32 2))
      keyID := thumbprintForPublicKey taggedCiphers (List.replicate 32 1) }

theorem fivePayload_built : buildAudiencePayload taggedCiphers (.ok ⟨List.replicate 32 2, rfl⟩)
    fiveMaterial (taggedCiphers.x25519Base (List.replicate 32 1)) "mesh" "network/node" "" =
      .ok fivePayload := by
  have hverified : verifyRoleAudienceKeyMaterial taggedCiphers fiveMaterial = .ok () :=
    verifyRoleAudienceKeyMaterial_eq_ok.mpr ⟨rfl, rfl, verifyX25519KeyMaterial_eq_ok.mpr
      ⟨List.replicate 32 5, base64URLDecode_rawURLEncode _, rfl, rfl, rfl⟩⟩
  have hkek : taggedCiphers.hkdf (List.replicate 32 3) sealedInfo = List.replicate 32 3 := by
    change (if sealedInfo = sealedInfo then 3 else 4) :: (Buffer.copy 31 (List.replicate 32 3)).val = _
    rw [if_pos rfl]
    decide
  have hwrapped : aesKeyWrap taggedCiphers (taggedCiphers.hkdf (List.replicate 32 3) sealedInfo)
      (List.replicate 32 5) = .ok wrappedKey := by
    rw [hkek]
    decide +kernel
  exact buildAudiencePayload_ok hverified (base64URLDecode_rawURLEncode _) rfl rfl rfl hwrapped

theorem separated_fivePayload (protocol : String) :
    Separated taggedCiphers fivePayload { fivePayload with protocol } where
  thumbprint _ := rfl
  info shared hsame := by
    have hinfo : fivePayload.info = sealedInfo := rfl
    rw [hinfo] at hsame ⊢
    by_contra hne
    have hhead := (List.cons.inj hsame).1
    rw [if_neg hne, if_pos rfl] at hhead
    exact absurd hhead (by decide)
  wrongKEK wrapped hwrapped := by
    obtain rfl := Except.ok.inj ((base64URLDecode_rawURLEncode _).symm.trans hwrapped)
    exact wrongKeysFail_wrappedKey
  wrongWrapped wrapped wrapped' hwrapped hwrapped' _ _ _ _ _ :=
    Except.ok.inj (hwrapped'.symm.trans hwrapped)

/-- The key comes back with the sealing key, and not for another protocol. -/
theorem audience_seals_five :
    unsealAudienceRecord taggedCiphers fivePayload (List.replicate 32 1) =
      .ok (List.replicate 32 5) ∧
    (∃ e, unsealAudienceRecord taggedCiphers fivePayload (List.replicate 32 2) = .error e) ∧
    ∃ e, unsealAudienceRecord taggedCiphers { fivePayload with protocol := "other" }
      (List.replicate 32 1) = .error e := by
  obtain ⟨key, hkey, hopens, hother, hchanged⟩ := (audience_seals taggedCiphers).1
    (.ok ⟨List.replicate 32 2, rfl⟩) fiveMaterial (List.replicate 32 1) "mesh" "network/node" ""
    fivePayload (by decide) rfl fivePayload_built
  obtain rfl := Except.ok.inj ((base64URLDecode_rawURLEncode _).symm.trans hkey)
  refine ⟨(hopens _ rfl rfl).1, hother _ (fun _ => by decide) ?_,
    hchanged _ (.protocol (by decide)) (separated_fivePayload _)⟩
  decide +kernel

/-! ### Clamped keys -/

/-- The bits of a private key that X25519 clears and sets. -/
def clamp (key : Bytes) : Bytes :=
  key.mapIdx fun i b => if i = 0 then b &&& 248 else if i = 31 then (b &&& 127) ||| 64 else b

/-- The transparent primitives, with keys that are clamped before they are used. -/
def clampedKeys : Primitives where
  x25519 scalar point := Primitives.transparent.x25519 (clamp scalar) point
  x25519Base := clamp
  hkdf := Primitives.transparent.hkdf
  sha256 := Primitives.transparent.sha256
  aes := Primitives.transparent.aes
  length_x25519Base scalar h := by simp [clamp, h]
  length_hkdf := Primitives.transparent.length_hkdf
  x25519_comm a b ha hb := Primitives.transparent.x25519_comm (clamp a) (clamp b)
    (by simp [clamp, ha]) (by simp [clamp, hb])

/-- A key that differs from the sealing key in a bit that is cleared opens the seal all the same. -/
theorem audience_seals_clamped : ∃ (km : RoleAudienceKeyMaterial) (payload : AudiencePayload)
    (key : Bytes),
    buildAudiencePayload clampedKeys (.ok ⟨List.replicate 32 2, rfl⟩) km
      (clampedKeys.x25519Base (List.replicate 32 8)) "mesh" "network/node" "" = .ok payload ∧
    9 :: List.replicate 31 8 ≠ List.replicate 32 8 ∧
    unsealAudienceRecord clampedKeys payload (9 :: List.replicate 31 8) = .ok key := by
  obtain ⟨km, -, -, hverified⟩ := generateAudienceKey_ok (c := clampedKeys) ⟨List.replicate 32 5, rfl⟩
  have hlen : (clampedKeys.x25519Base (List.replicate 32 8)).length = 32 := rfl
  have hshared : clampedKeys.x25519 (⟨List.replicate 32 2, rfl⟩ : Buffer 32).val
      (clampedKeys.x25519Base (List.replicate 32 8)) = some _ := rfl
  obtain ⟨payload, hbuilt⟩ :=
    exists_buildAudiencePayload hverified hlen hshared "mesh" "network/node" ""
  obtain ⟨key, -, hseals, -, hrole, -⟩ := buildAudiencePayload_eq_ok hbuilt
  exact ⟨km, payload, key, hbuilt, by decide, hseals.opens (by rw [hrole]; decide) rfl (by decide)⟩

end Meshd.Control.Sealed

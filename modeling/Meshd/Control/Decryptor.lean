import Meshd.Control.LoadState
import Meshd.Dwn.Crypto.RoundTrip
import Meshd.Dwn.Crypto.Subtree
import Meshd.Mesh.MeshProtocol

namespace Meshd.Control

open Meshd.Framework Meshd.Dwn.Crypto Meshd.Mesh

/-- What a role audience entry says about its key. -/
structure RoleAudienceInfo where
  protocol : String
  rolePath : String
  keyID : String
deriving DecidableEq

def roleAudienceEntryInfos (enc : Option Encryption) : List RoleAudienceInfo :=
  match enc with
  | none => []
  | some enc =>
    (enc.keyEncryption.filter (·.derivationScheme = derivationSchemeRoleAudience)).map fun entry =>
      { protocol := entry.protocol, rolePath := entry.rolePath, keyID := entry.keyID }

/-- The members of a client that decryption uses. The two lookups ask the server or a cache, which
make up the state; they may answer with any key, and fail with errors that may be rate limits. -/
structure Reader (σ : Type) where
  selfDID : String
  anchorTenant : String
  protocolRole : String
  encManager : Option EncryptionKeyManager
  grantKeys : List SubtreeDecrypter
  /-- `AudiencePrivateKeyByKeyID` of the audience source -/
  audienceSource : Option (RoleAudienceInfo → EStateM LoadError σ Bytes)
  /-- the delivered key, from the cache or by `queryDeliveryAudiencePrivateKey` -/
  deliveredAudienceKey : RoleAudienceInfo → EStateM LoadError σ Bytes

namespace Reader

variable {σ : Type} (c : Primitives) (r : Reader σ)

def isNetworkOwner : Bool := r.selfDID = "" || r.selfDID = r.anchorTenant

def decrypterFor (protocol protocolPath : String) : Option SubtreeDecrypter :=
  r.grantKeys.find? (·.covers protocol protocolPath)

def decryptWithProtocolPath (manager : EncryptionKeyManager) (ciphertext : Bytes)
    (enc : Option Encryption) (protocolPath : String) : Except String Bytes := do
  let privKey ← (manager.deriveDecryptionKey c protocolPath).mapError
    ("deriving decryption key for " ++ protocolPath ++ ": " ++ ·)
  decryptData c ciphertext enc privKey

section Envelope

variable (ciphertext : Bytes) (enc : Option Encryption)

/-- The first of the two ways to an audience key. A key that does not unwrap the record leaves its
error for later; a key of the wrong length ends the search. -/
def decryptViaSeal (source : RoleAudienceInfo → EStateM LoadError σ Bytes)
    (info : RoleAudienceInfo) : EStateM LoadError σ (Except LoadError Bytes) := do
  match ← attempt (source info) with
  | .error e => return .error (e.wrap (info.rolePath ++ " seal"))
  | .ok audiencePriv =>
    let dec ← ofExcept ((newRoleAudienceDecrypter c audiencePriv).mapError LoadError.plain)
    return (dec.decrypt c ciphertext enc).mapError fun e =>
      (LoadError.plain e).wrap (info.rolePath ++ " seal decrypt")

def decryptViaDelivery (info : RoleAudienceInfo) : EStateM LoadError σ Bytes := do
  let privateKey ← r.deliveredAudienceKey info
  let dec ← ofExcept ((newRoleAudienceDecrypter c privateKey).mapError fun e =>
    (LoadError.plain e).wrap "using delivered audience key")
  ofExcept ((dec.decrypt c ciphertext enc).mapError LoadError.plain)

/-- The seal, where there is a source of them, with the errors it leaves. -/
def trySeal (info : RoleAudienceInfo) : EStateM LoadError σ (Except (List LoadError) Bytes) :=
  match r.audienceSource with
  | none => pure (.error [])
  | some source => do
    let result ← decryptViaSeal c ciphertext enc source info
    return result.mapError ([·])

/-- The loop of `decryptRoleAudience`. -/
def tryInfos (errs : List LoadError) : List RoleAudienceInfo → EStateM LoadError σ Bytes
  | [] => throw ((LoadError.join errs).wrap "role audience key unavailable")
  | info :: rest => do
    match ← r.trySeal c ciphertext enc info with
    | .ok plaintext => return plaintext
    | .error sealErrs =>
      match ← attempt (r.decryptViaDelivery c ciphertext enc info) with
      | .ok plaintext => return plaintext
      | .error e => tryInfos (errs ++ sealErrs ++ [e.wrap (info.rolePath ++ " delivery")]) rest

/-- The entries of this reader's own role come first. -/
def decryptRoleAudience (infos : List RoleAudienceInfo) : EStateM LoadError σ Bytes :=
  r.tryInfos c ciphertext enc [] <|
    if r.protocolRole = "" then infos
    else infos.filter (·.rolePath = r.protocolRole) ++ infos.filter (·.rolePath ≠ r.protocolRole)

/-- What is left when neither a grant key nor an audience key has helped. -/
def decryptFallback (protocolPath : String) (roleAudienceErr : Option LoadError) :
    Except LoadError Bytes :=
  match r.encManager with
  | none =>
    .error (roleAudienceErr.getD (.plain ("no key material decrypts record at " ++ protocolPath)))
  | some manager =>
    (decryptWithProtocolPath c manager ciphertext enc protocolPath).mapError fun e =>
      roleAudienceErr.getD (.plain e)

def decryptByRole (protocolPath : String) : EStateM LoadError σ Bytes :=
  let infos := roleAudienceEntryInfos enc
  if infos = [] then ofExcept (r.decryptFallback c ciphertext enc protocolPath none)
  else do
    match ← attempt (r.decryptRoleAudience c ciphertext enc infos) with
    | .ok plaintext => return plaintext
    | .error e => ofExcept (r.decryptFallback c ciphertext enc protocolPath (some e))

/-- The first grant key that covers the path, where it decrypts the record. -/
def decryptWithGrantKeys (protocolPath : String) : Option Bytes :=
  (r.decrypterFor MeshProtocol.meshProtocolURI protocolPath).bind fun dec =>
    (dec.decrypt c ciphertext enc MeshProtocol.meshProtocolURI protocolPath).toOption

/-- The function that `makeDecryptor` returns. -/
def decryptEntry (protocolPath : String) : EStateM LoadError σ Bytes :=
  match r.isNetworkOwner, r.encManager with
  | true, some manager =>
    ofExcept ((decryptWithProtocolPath c manager ciphertext enc protocolPath).mapError
      LoadError.plain)
  | _, _ =>
    match r.decryptWithGrantKeys c ciphertext enc protocolPath with
    | some plaintext => pure plaintext
    | none => r.decryptByRole c ciphertext enc protocolPath

end Envelope

def makeDecryptor (protocolPath : String) :
    Option (Bytes → Option Encryption → EStateM LoadError σ Bytes) :=
  if r.encManager.isNone ∧ r.grantKeys = [] ∧ r.audienceSource.isNone then none
  else some fun ciphertext enc => r.decryptEntry c ciphertext enc protocolPath

/-! ### Every way leads to the plaintext or to an error -/

/-- A computation that returns nothing but `plaintext`. -/
def Yields (plaintext : Bytes) (x : EStateM LoadError σ Bytes) : Prop :=
  Triple (fun _ => True) x (fun result _ => result = plaintext) (fun _ _ => True)

variable {c r} {plaintext ct cek : Bytes} {recipients : List KeyEncryptionInput} {enc : Encryption}

theorem Yields.ofExcept {x : Except LoadError Bytes}
    (h : ∀ result, x = .ok result → result = plaintext) :
    Yields plaintext (ofExcept x : EStateM LoadError σ Bytes) :=
  Triple.ofExcept (fun result hx _ _ => h result hx) (fun _ _ _ _ => True.intro)

/-- A computation with another one for where it fails. -/
theorem Yields.orElse {x : EStateM LoadError σ Bytes} {y : LoadError → EStateM LoadError σ Bytes}
    (hx : Yields plaintext x) (hy : ∀ e, Yields plaintext (y e)) :
    Yields plaintext (do
      match ← attempt x with
      | .ok result => return result
      | .error e => y e) :=
  Triple.attempt_bind hx (fun _ => Triple.pure fun _ hs => hs) hy

section Seals

variable (h : Seals c plaintext recipients ct enc cek) (hwrong : WrongKeysFailIn c enc)
include h hwrong

theorem decryptWithProtocolPath_eq_ok {manager : EncryptionKeyManager} {protocolPath : String}
    {result : Bytes}
    (hok : decryptWithProtocolPath c manager ct (some enc) protocolPath = .ok result) :
    result = plaintext := by
  rw [decryptWithProtocolPath, bind_eq_ok] at hok
  obtain ⟨privKey, -, hok⟩ := hok
  exact h.decryptData_eq_ok hwrong hok

theorem decryptFallback_eq_ok {protocolPath : String} {err : Option LoadError} {result : Bytes}
    (hok : r.decryptFallback c ct (some enc) protocolPath err = .ok result) :
    result = plaintext := by
  rw [decryptFallback] at hok
  split at hok
  · cases hok
  · exact decryptWithProtocolPath_eq_ok h hwrong (mapError_eq_ok.mp hok)

theorem decryptWithGrantKeys_eq_some {protocolPath : String} {result : Bytes}
    (hsome : r.decryptWithGrantKeys c ct (some enc) protocolPath = some result) :
    result = plaintext := by
  rw [decryptWithGrantKeys, Option.bind_eq_some_iff] at hsome
  obtain ⟨dec, -, hsome⟩ := hsome
  cases hdec : dec.decrypt c ct (some enc) MeshProtocol.meshProtocolURI protocolPath with
  | error e => simp [hdec, Except.toOption] at hsome
  | ok p =>
    obtain rfl : p = result := by simpa [hdec, Except.toOption] using hsome
    rw [SubtreeDecrypter.decrypt, bind_eq_ok] at hdec
    obtain ⟨leaf, -, hdec⟩ := hdec
    exact h.decryptData_eq_ok hwrong hdec

theorem yields_decryptViaDelivery (info : RoleAudienceInfo) :
    Yields plaintext (r.decryptViaDelivery c ct (some enc) info) := by
  refine Triple.bind Triple.trivial fun privateKey => ?_
  refine Triple.bind Triple.trivial fun dec => ?_
  exact Triple.of_pre (Yields.ofExcept fun result hok =>
    h.audience_eq_ok hwrong (mapError_eq_ok.mp hok)) fun _ _ => True.intro

theorem trySeal_ok (info : RoleAudienceInfo) :
    Triple (fun _ => True) (r.trySeal c ct (some enc) info)
      (fun result _ => ∀ p, result = .ok p → p = plaintext) (fun _ _ => True) := by
  rw [trySeal]
  split
  · exact Triple.pure fun _ _ p hp => by cases hp
  · next source _ =>
    refine Triple.bind (Q := fun result _ => ∀ p, result = .ok p → p = plaintext) ?_ ?_
    · refine Triple.bind Triple.trivial fun found => ?_
      cases found with
      | error e => exact Triple.pure fun _ _ p hp => by cases hp
      | ok audiencePriv =>
        refine Triple.bind Triple.trivial fun dec => ?_
        exact Triple.pure fun _ _ p hp => h.audience_eq_ok hwrong (mapError_eq_ok.mp hp)
    · intro result
      exact Triple.pure fun _ hresult p hp => hresult p (mapError_eq_ok.mp hp)

theorem yields_tryInfos (errs : List LoadError) (infos : List RoleAudienceInfo) :
    Yields plaintext (r.tryInfos c ct (some enc) errs infos) := by
  induction infos generalizing errs with
  | nil => exact Triple.throw fun _ _ => True.intro
  | cons info rest ih =>
    refine Triple.bind (trySeal_ok h hwrong info) fun sealed => ?_
    cases sealed with
    | ok p => exact Triple.pure fun _ hp => hp p rfl
    | error sealErrs =>
      exact Triple.of_pre
        (Yields.orElse (yields_decryptViaDelivery h hwrong info) fun e => ih _) fun _ _ => True.intro

theorem yields_decryptByRole (protocolPath : String) :
    Yields plaintext (r.decryptByRole c ct (some enc) protocolPath) := by
  have hfallback (err : Option LoadError) : Yields plaintext
      (ofExcept (r.decryptFallback c ct (some enc) protocolPath err) : EStateM LoadError σ Bytes) :=
    Yields.ofExcept fun _ hok => decryptFallback_eq_ok h hwrong hok
  rw [decryptByRole]
  split
  · exact hfallback none
  · exact Yields.orElse (yields_tryInfos h hwrong [] _) fun e => hfallback (some e)

theorem yields_decryptEntry (protocolPath : String) :
    Yields plaintext (r.decryptEntry c ct (some enc) protocolPath) := by
  rw [decryptEntry]
  split
  · exact Yields.ofExcept fun _ hok =>
      decryptWithProtocolPath_eq_ok h hwrong (mapError_eq_ok.mp hok)
  · split
    · next p hsome =>
      exact Triple.pure fun _ _ => decryptWithGrantKeys_eq_some h hwrong hsome
    · exact yields_decryptByRole h hwrong protocolPath

end Seals

/-- An encrypted record opens to every holder of a listed key, and no reader gets anything else from
it. -/
theorem encryptData_opens {entropy : Entropy}
    (h : encryptData c entropy plaintext recipients = .ok (ct, enc))
    (hthumb : ThumbprintsDiffer c recipients) (hwrong : WrongKeysFailIn c enc) :
    (∀ input ∈ recipients, ∀ priv : Bytes, priv.length = 32 → c.x25519Base priv = input.publicKey →
      (input.scheme = derivationSchemeProtocolPath ∧
        decryptData c ct (some enc) priv = .ok plaintext) ∨
      (input.scheme = derivationSchemeRoleAudience ∧
        ∃ d, newRoleAudienceDecrypter c priv = .ok d ∧
          d.decrypt c ct (some enc) = .ok plaintext)) ∧
    ∀ (σ : Type) (r : Reader σ) (protocolPath : String) decryptor,
      r.makeDecryptor c protocolPath = some decryptor →
        ∀ s result s', (decryptor ct (some enc)).run s = .ok result s' → result = plaintext := by
  obtain ⟨cek, hseals⟩ := seals_of_encryptData h
  constructor
  · intro input hin priv hlen hpub
    obtain hpath | haud := hseals.scheme_cases hin
    · exact .inl ⟨hpath, hseals.decryptData_holder hthumb hin hpath hlen hpub⟩
    · exact .inr ⟨haud, hseals.audience_holder hthumb hin haud hlen hpub⟩
  · intro σ r protocolPath decryptor hmake s result s' hrun
    rw [makeDecryptor] at hmake
    split_ifs at hmake
    obtain rfl := Option.some.inj hmake
    exact (yields_decryptEntry hseals hwrong protocolPath).ok True.intro hrun

/-- AES leaves blocks alone under one key and exchanges their halves under all others. Agreement is
the exclusive or, which is used as it is. -/
def twoCiphers : Primitives where
  x25519 scalar point := some (xorBytes scalar point)
  x25519Base scalar := scalar
  hkdf key _ := (Buffer.copy 32 key).val
  sha256 := Primitives.transparent.sha256
  aes key :=
    if key = List.replicate 32 3 then Equiv.refl _
    else (Buffer.split 8 8).trans ((Equiv.prodComm _ _).trans (Buffer.split 8 8).symm)
  length_x25519Base _ h := h
  length_hkdf _ _ := (Buffer.copy 32 _).property
  x25519_comm a b _ _ := by
    simp only [xorBytes]
    rw [List.zipWith_comm]
    simp only [UInt8.xor_comm]

/-- A recipient by the protocol path and one by a role that share their key. -/
def sharedKey : List KeyEncryptionInput :=
  [{ publicKey := List.replicate 32 1, derivationScheme := derivationSchemeProtocolPath },
    { publicKey := List.replicate 32 1, derivationScheme := derivationSchemeRoleAudience,
      protocol := MeshProtocol.meshProtocolURI, rolePath := "network/node" }]

def fixedEntropy : Entropy where
  cek := .ok ⟨List.replicate 32 5, rfl⟩
  iv := .ok ⟨List.replicate 16 7, rfl⟩
  ephemeral _ := .ok ⟨List.replicate 32 2, rfl⟩

/-- The content key wrapped under the agreed key. -/
def wrappedKey : Bytes := [0xA6, 0xA6, 0xA6, 0xA6, 0xA6, 0xA6, 0xA6, 0xBE] ++ List.replicate 32 5

theorem wrongKeysFail_wrappedKey : WrongKeysFail twoCiphers wrappedKey := by
  have honly (kek cek : Bytes) (hlen : kek.length = 32)
      (hok : aesKeyUnwrap twoCiphers kek wrappedKey = .ok cek) : kek = List.replicate 32 3 := by
    by_contra hne
    have hsame : newCipher twoCiphers kek = newCipher twoCiphers (List.replicate 32 0) := by
      rw [newCipher_ok hlen, newCipher_ok (List.length_replicate ..)]
      simp only [twoCiphers]
      rw [if_neg hne, if_neg (by decide)]
    have hother : aesKeyUnwrap twoCiphers kek wrappedKey =
        aesKeyUnwrap twoCiphers (List.replicate 32 0) wrappedKey := by
      simp only [aesKeyUnwrap, hsame]
    have hfails : aesKeyUnwrap twoCiphers (List.replicate 32 0) wrappedKey =
        .error "AES Key Unwrap integrity check failed" := by decide +kernel
    rw [hother, hfails] at hok
    cases hok
  intro kek kek' hlen hlen' cek cek' hok hok'
  rw [honly kek cek hlen hok, honly kek' cek' hlen' hok']

theorem sharedKey_opens :
    ∃ ct enc, encryptData twoCiphers fixedEntropy [1, 2, 3] sharedKey = .ok (ct, enc) ∧
      decryptData twoCiphers ct (some enc) (List.replicate 32 1) = .ok [1, 2, 3] := by
  let entry (scheme protocol rolePath : String) : KeyEncryption :=
    { algorithm := algX25519HKDFA256KW
      encryptedKey := Base64.rawURLEncode wrappedKey
      ephemeralPublicKey := some ⟨"OKP", "X25519", Base64.rawURLEncode (List.replicate 32 2)⟩
      keyID := thumbprintForPublicKey twoCiphers (List.replicate 32 1)
      derivationScheme := scheme
      protocol := protocol
      rolePath := rolePath }
  let enc : Encryption :=
    { algorithm := encA256CTR
      initializationVector := Base64.rawURLEncode (List.replicate 16 7)
      keyEncryption := [entry derivationSchemeProtocolPath "" "",
        entry derivationSchemeRoleAudience MeshProtocol.meshProtocolURI "network/node"] }
  have hsealed : encryptData twoCiphers fixedEntropy [1, 2, 3] sharedKey = .ok ([6, 5, 4], enc) := rfl
  have hthumb : ThumbprintsDiffer twoCiphers sharedKey := by
    have hkey : ∀ input ∈ sharedKey, input.publicKey = List.replicate 32 1 := by decide
    intro input hin input' hin' _
    rw [hkey input hin, hkey input' hin']
  have hwrong : WrongKeysFailIn twoCiphers enc := by
    intro e he wrapped hdecode
    have hkey : e.encryptedKey = Base64.rawURLEncode wrappedKey := by
      simp only [enc, List.mem_cons, List.not_mem_nil, or_false] at he
      obtain rfl | rfl := he <;> rfl
    rw [hkey, base64URLDecode_rawURLEncode] at hdecode
    obtain rfl := Except.ok.inj hdecode
    exact wrongKeysFail_wrappedKey
  refine ⟨_, enc, hsealed, ?_⟩
  obtain ⟨-, hopen⟩ | ⟨haud, -⟩ := (encryptData_opens hsealed hthumb hwrong).1 _ List.mem_cons_self
    (List.replicate 32 1) rfl rfl
  · exact hopen
  · exact absurd haud (by decide)

end Reader

end Meshd.Control

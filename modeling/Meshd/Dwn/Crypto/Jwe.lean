import Meshd.Dwn.Crypto.KeyWrap
import Meshd.Dwn.Crypto.Write
import Meshd.Framework.JsonText

namespace Meshd.Dwn.Crypto

open Meshd.Framework

/-! ### Content encryption -/

def encA256CTR : String := "A256CTR"

def cekSize : Nat := 32

def ivSizeA256CTR : Nat := 16

/-- The counter block `i` blocks after the first. -/
def counterBlock (iv : Bytes) (i : Nat) : Block :=
  ⟨bigEndian 16 (ofBigEndian iv + i), length_bigEndian 16 _⟩

/-- The first `count` blocks that `cipher.NewCTR` yields. -/
def keyStream (block : Equiv.Perm Block) (iv : Bytes) (count : Nat) : Bytes :=
  Buffer.concat ((List.range count).map fun i => block (counterBlock iv i))

variable (c : Primitives)

def ctrXor (key iv input : Bytes) : Except String Bytes :=
  if key.length ≠ cekSize then
    .error ("AES-256-CTR key must be 32 bytes, got " ++ toString key.length)
  else if iv.length ≠ ivSizeA256CTR then
    .error ("AES-256-CTR IV must be 16 bytes, got " ++ toString iv.length)
  else do
    let block ← (newCipher c key).mapError ("creating AES cipher: " ++ ·)
    return xorBytes input (keyStream block iv ((input.length + 15) / 16))

/-! ### Key encryption -/

/-- One way to recover the content key. -/
structure KeyEncryption where
  algorithm : String
  encryptedKey : String
  ephemeralPublicKey : Option PublicKeyJWK
  keyID : String
  derivationScheme : String
  protocol : String
  rolePath : String
deriving DecidableEq

structure Encryption where
  algorithm : String
  initializationVector : String
  keyEncryption : List KeyEncryption
deriving DecidableEq

/-- The text as JSON, without the escapes for HTML. -/
def jsonString (text : String) : String :=
  "\"" ++ String.ofList (text.toList.flatMap JsonText.escapePlain) ++ "\""

def kekInfoJSON (elems : List String) : String := "[" ++ ",".intercalate (elems.map jsonString) ++ "]"

def protocolPathKEKInfo (keyID : String) : String :=
  kekInfoJSON [algX25519HKDFA256KW, derivationSchemeProtocolPath, keyID]

def roleAudienceKEKInfo (protocol rolePath keyID : String) : String :=
  kekInfoJSON [algX25519HKDFA256KW, derivationSchemeRoleAudience, protocol, rolePath, keyID]

def kekInfo (entry : KeyEncryption) : Except String String :=
  if entry.derivationScheme = derivationSchemeProtocolPath then
    .ok (protocolPathKEKInfo entry.keyID)
  else if entry.derivationScheme = derivationSchemeRoleAudience then
    .ok (roleAudienceKEKInfo entry.protocol entry.rolePath entry.keyID)
  else .error ("unsupported derivation scheme " ++ entry.derivationScheme.quote)

/-- What `rand.Reader` yields during one encryption: the content key, the counter, and a private key
for the recipient at each index. A read may fail. -/
structure Entropy where
  cek : Except String (Buffer 32)
  iv : Except String (Buffer 16)
  ephemeral : Nat → Except String (Buffer 32)

def generateX25519KeyPair (read : Except String (Buffer 32)) : Except String (Bytes × Bytes) := do
  let privateKey ← read.mapError ("generating X25519 private key: " ++ ·)
  return (privateKey.val, c.x25519Base privateKey.val)

def deriveKEK (sharedSecret : Bytes) (info : String) : Bytes := c.hkdf sharedSecret info

def wrapCEK (read : Except String (Buffer 32)) (recipientPublicKey cek : Bytes) (info : String) :
    Except String (Bytes × Bytes) := do
  let (ephPriv, ephPub) ← (generateX25519KeyPair c read).mapError ("generating ephemeral key: " ++ ·)
  let sharedSecret ← (x25519SharedSecret c ephPriv recipientPublicKey).mapError
    ("computing shared secret: " ++ ·)
  let wrapped ← (aesKeyWrap c (deriveKEK c sharedSecret info) cek).mapError ("wrapping CEK: " ++ ·)
  return (ephPub, wrapped)

def unwrapCEK (recipientPrivateKey ephemeralPublicKey wrappedKey : Bytes) (info : String) :
    Except String Bytes := do
  let sharedSecret ← (x25519SharedSecret c recipientPrivateKey ephemeralPublicKey).mapError
    ("computing shared secret: " ++ ·)
  (aesKeyUnwrap c (deriveKEK c sharedSecret info) wrappedKey).mapError ("unwrapping CEK: " ++ ·)

/-- The scheme of a recipient: an empty one is the protocol path. -/
def KeyEncryptionInput.scheme (input : KeyEncryptionInput) : String :=
  if input.derivationScheme = "" then derivationSchemeProtocolPath else input.derivationScheme

/-- The entry for a recipient before its key is wrapped, with its info text. -/
def blankEntry (input : KeyEncryptionInput) (keyID : String) :
    Except String (String × KeyEncryption) :=
  let entry : KeyEncryption :=
    { algorithm := algX25519HKDFA256KW, encryptedKey := "", ephemeralPublicKey := none, keyID,
      derivationScheme := input.scheme, protocol := "", rolePath := "" }
  if input.scheme = derivationSchemeProtocolPath then .ok (protocolPathKEKInfo keyID, entry)
  else if input.scheme = derivationSchemeRoleAudience then
    if input.protocol = "" ∨ input.rolePath = "" then
      .error "roleAudience input requires protocol and rolePath"
    else .ok (roleAudienceKEKInfo input.protocol input.rolePath keyID,
      { entry with protocol := input.protocol, rolePath := input.rolePath })
  else .error ("unsupported write derivation scheme " ++ input.scheme.quote)

def wrapCEKEntry (read : Except String (Buffer 32)) (cek : Bytes) (input : KeyEncryptionInput) :
    Except String KeyEncryption := do
  if input.publicKey.length ≠ x25519KeySize then
    .error ("recipient public key must be 32 bytes, got " ++ toString input.publicKey.length)
  else
    let (info, entry) ← blankEntry input (thumbprintForPublicKey c input.publicKey)
    let (ephPub, wrapped) ← (wrapCEK c read input.publicKey cek info).mapError ("wrapping CEK: " ++ ·)
    return { entry with
      encryptedKey := Base64.rawURLEncode wrapped
      ephemeralPublicKey := some { kty := "OKP", crv := "X25519", x := Base64.rawURLEncode ephPub } }

/-- The loop of `EncryptData` over the recipients, from index `i` on. -/
def wrapCEKEntries (ephemeral : Nat → Except String (Buffer 32)) (cek : Bytes) (i : Nat) :
    List KeyEncryptionInput → Except String (List KeyEncryption)
  | [] => .ok []
  | input :: rest => do
    let entry ← wrapCEKEntry c (ephemeral i) cek input
    let entries ← wrapCEKEntries ephemeral cek (i + 1) rest
    return entry :: entries

def encryptData (entropy : Entropy) (plaintext : Bytes) (recipients : List KeyEncryptionInput) :
    Except String (Bytes × Encryption) := do
  if recipients = [] then .error "at least one recipient is required"
  else
    let cek ← entropy.cek.mapError ("generating CEK: " ++ ·)
    let iv ← entropy.iv.mapError ("generating IV: " ++ ·)
    let ct ← (ctrXor c cek.val iv.val plaintext).mapError ("encrypting data: " ++ ·)
    let keyEncryption ← wrapCEKEntries c entropy.ephemeral cek.val 0 recipients
    return (ct, { algorithm := encA256CTR
                  initializationVector := Base64.rawURLEncode iv.val
                  keyEncryption })

/-! ### Decryption -/

/-- The loop of `selectProtocolPathEntry`. -/
def selectFrom (wantKeyID : String) (first : Option KeyEncryption) :
    List KeyEncryption → Option KeyEncryption
  | [] => first
  | entry :: rest =>
    if entry.derivationScheme ≠ derivationSchemeProtocolPath then selectFrom wantKeyID first rest
    else if entry.keyID = wantKeyID then some entry
    else selectFrom wantKeyID (first.or (some entry)) rest

def selectProtocolPathEntry (enc : Option Encryption) (recipientPrivateKey : Bytes) :
    Except String KeyEncryption :=
  match enc with
  | none => .error "missing encryption envelope"
  | some enc => do
    let pub ← x25519PublicKey c recipientPrivateKey
    match selectFrom (thumbprintForPublicKey c pub) none enc.keyEncryption with
    | some entry => .ok entry
    | none => .error "no protocolPath keyEncryption entry found"

def unwrapEntry (entry : KeyEncryption) (recipientPrivateKey : Bytes) : Except String Bytes :=
  match entry.ephemeralPublicKey with
  | none => .error "keyEncryption entry missing ephemeralPublicKey"
  | some jwk => do
    let ephPub ← (base64URLDecode jwk.x).mapError ("decoding ephemeralPublicKey: " ++ ·)
    let wrapped ← (base64URLDecode entry.encryptedKey).mapError ("decoding encryptedKey: " ++ ·)
    let info ← kekInfo entry
    unwrapCEK c recipientPrivateKey ephPub wrapped info

def decryptContent (enc : Encryption) (cek ciphertext : Bytes) : Except String Bytes := do
  if enc.algorithm ≠ encA256CTR then
    .error ("unsupported content algorithm " ++ enc.algorithm.quote)
  else
    let iv ← (base64URLDecode enc.initializationVector).mapError
      ("decoding initializationVector: " ++ ·)
    ctrXor c cek iv ciphertext

def decryptData (ciphertext : Bytes) (enc : Option Encryption) (recipientPrivateKey : Bytes) :
    Except String Bytes := do
  let entry ← selectProtocolPathEntry c enc recipientPrivateKey
  let cek ← unwrapEntry c entry recipientPrivateKey
  match enc with
  | none => .error "missing encryption envelope"
  | some enc => decryptContent c enc cek ciphertext

structure RoleAudienceDecrypter where
  privateKey : Bytes
  keyID : String

def newRoleAudienceDecrypter (audiencePrivateKey : Bytes) : Except String RoleAudienceDecrypter := do
  let pub ← x25519PublicKey c audiencePrivateKey
  return { privateKey := audiencePrivateKey, keyID := thumbprintForPublicKey c pub }

def RoleAudienceDecrypter.decrypt (d : RoleAudienceDecrypter) (ciphertext : Bytes)
    (enc : Option Encryption) : Except String Bytes :=
  match enc with
  | none => .error "missing encryption envelope"
  | some enc =>
    match enc.keyEncryption.find? fun candidate =>
        candidate.derivationScheme = derivationSchemeRoleAudience ∧ candidate.keyID = d.keyID with
    | none => .error ("no roleAudience keyEncryption entry for audience key " ++ d.keyID.quote)
    | some entry => do
      let cek ← (unwrapEntry c entry d.privateKey).mapError ("unwrapping roleAudience entry: " ++ ·)
      decryptContent c enc cek ciphertext

end Meshd.Dwn.Crypto

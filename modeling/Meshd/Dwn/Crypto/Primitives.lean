import Meshd.Framework.Base64

namespace Meshd.Dwn.Crypto

open Meshd.Framework

/-- A block of the AES cipher. -/
abbrev Block := { b : Bytes // b.length = 16 }

/-- The primitives that the packages outside the repository provide, with what is assumed of them:
X25519 commutes, keys have 32 bytes and AES under any key is a permutation of the blocks. -/
structure Primitives where
  /-- `curve25519.X25519(scalar, point)`; `none` for a point of low order -/
  x25519 : Bytes → Bytes → Option Bytes
  /-- `curve25519.X25519(scalar, Basepoint)` -/
  x25519Base : Bytes → Bytes
  /-- HKDF-SHA256 with an empty salt, 32 bytes of output, for an input key and an info text -/
  hkdf : Bytes → String → Bytes
  /-- SHA-256 of a text -/
  sha256 : String → Bytes
  /-- AES under a key of 32 bytes -/
  aes : Bytes → Equiv.Perm Block
  length_x25519Base : ∀ scalar, scalar.length = 32 → (x25519Base scalar).length = 32
  length_hkdf : ∀ key info, (hkdf key info).length = 32
  x25519_comm : ∀ a b, a.length = 32 → b.length = 32 →
    x25519 a (x25519Base b) = x25519 b (x25519Base a)

/-- The assumptions can be met: every private key is its own public key, and agreement is the
exclusive or. -/
def Primitives.transparent : Primitives where
  x25519 scalar point := some (List.zipWith (· ^^^ ·) scalar point)
  x25519Base scalar := scalar
  hkdf key info := (List.range 32).map fun i => key.getD i 0 + UInt8.ofNat info.length
  sha256 text := text.toList.map fun ch => UInt8.ofNat ch.toNat
  aes _ := Equiv.refl _
  length_x25519Base _ h := h
  length_hkdf _ _ := by simp
  x25519_comm a b _ _ := by
    rw [List.zipWith_comm]
    simp only [UInt8.xor_comm]

def algX25519HKDFA256KW : String := "X25519-HKDF-SHA256+A256KW"

def derivationSchemeProtocolPath : String := "protocolPath"

def derivationSchemeRoleAudience : String := "roleAudience"

def x25519KeySize : Nat := 32

/-- The members of a `PublicKeyJWK` that the code fills in. -/
structure PublicKeyJWK where
  kty : String
  crv : String
  x : String
deriving DecidableEq

variable (c : Primitives)

def x25519PublicKey (privateKey : Bytes) : Except String Bytes :=
  if privateKey.length ≠ x25519KeySize then
    .error ("X25519 private key must be 32 bytes, got " ++ toString privateKey.length)
  else .ok (c.x25519Base privateKey)

def x25519SharedSecret (privateKey publicKey : Bytes) : Except String Bytes :=
  if privateKey.length ≠ x25519KeySize then
    .error ("X25519 private key must be 32 bytes, got " ++ toString privateKey.length)
  else if publicKey.length ≠ x25519KeySize then
    .error ("X25519 public key must be 32 bytes, got " ++ toString publicKey.length)
  else match c.x25519 privateKey publicKey with
    | none => .error "X25519 key agreement: crypto/ecdh: bad X25519 remote ECDH input: low order point"
    | some shared => .ok shared

def jwkThumbprintX25519 (xB64url : String) : String :=
  Base64.rawURLEncode
    (c.sha256 ("\x7b\"crv\":\"X25519\",\"kty\":\"OKP\",\"x\":\"" ++ xB64url ++ "\"\x7d"))

def thumbprintForPublicKey (publicKey : Bytes) : String :=
  jwkThumbprintX25519 c (Base64.rawURLEncode publicKey)

/-- `base64URLDecode`: with or without padding. -/
def base64URLDecode (text : String) : Except String Bytes :=
  match Base64.rawURLDecode text with
  | some data => .ok data
  | none =>
    match Base64.decodePadded Base64.url text.toList with
    | some data => .ok data
    | none => .error "base64url decode: illegal base64 data"

variable {c}

theorem x25519PublicKey_ok {privateKey : Bytes} (h : privateKey.length = 32) :
    x25519PublicKey c privateKey = .ok (c.x25519Base privateKey) := by
  simp [x25519PublicKey, x25519KeySize, h]

@[simp] theorem base64URLDecode_rawURLEncode (data : Bytes) :
    base64URLDecode (Base64.rawURLEncode data) = .ok data := by
  simp [base64URLDecode]

end Meshd.Dwn.Crypto

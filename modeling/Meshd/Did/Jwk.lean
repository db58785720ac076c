import Meshd.Framework.Bytes
import Meshd.Framework.Fallible

namespace Meshd.Did

open Meshd.Framework

/-- The parts of a DID that its users read. -/
structure DID where
  method : String
  id : String
deriving DecidableEq

def isHexChar (ch : Char) : Bool := ch.isDigit || ('a' ≤ ch && ch ≤ 'f') || ('A' ≤ ch && ch ≤ 'F')

/-- The characters of `[a-zA-Z0-9._-]`. -/
def isNameChar (ch : Char) : Bool := ch.isAlphanum || ch = '.' || ch = '_' || ch = '-'

/-- `(idChar*:)*idChar+` up to its end: name characters, percent escapes and colons. -/
def isMethodIDText : List Char → Bool
  | [] => true
  | '%' :: a :: b :: rest => isHexChar a && isHexChar b && isMethodIDText rest
  | ch :: rest => (isNameChar ch || ch = ':') && isMethodIDText rest

def isMethodID (text : List Char) : Bool := isMethodIDText text && text.getLast?.any (· ≠ ':')

def isParamChar (ch : Char) : Bool := isNameChar ch || ch = ':' || ch = '%'

/-- `paramChar+=paramChar*`. -/
def isParam (text : List Char) : Bool :=
  let key := text.takeWhile (· ≠ '=')
  let value := text.dropWhile (· ≠ '=')
  key ≠ [] && key.all isParamChar && value ≠ [] && value.tail.all isParamChar

/-- `didURIPattern`. The parts after the identifier begin with `;`, `/`, `?` and `#`, none of which
can stand in a part before it. -/
def parse (input : String) : Except String DID :=
  match input.toList with
  | 'd' :: 'i' :: 'd' :: ':' :: rest =>
    let method := rest.takeWhile (· ≠ ':')
    let rest := rest.dropWhile (· ≠ ':')
    let fragment := rest.dropWhile (· ≠ '#')
    let rest := (rest.takeWhile (· ≠ '#')).takeWhile (· ≠ '?')
    let rest := rest.takeWhile (· ≠ '/')
    let id := (rest.takeWhile (· ≠ ';')).tail
    let params := ((rest.dropWhile (· ≠ ';')).splitOn ';').tail
    if method ≠ [] ∧ method.all (fun ch => ch.isLower || ch.isDigit) ∧ rest ≠ [] ∧ isMethodID id ∧
        params.all isParam ∧ '\n' ∉ fragment then
      .ok { method := String.ofList method, id := String.ofList id }
    else .error "invalid DID URI"
  | _ => .error "invalid DID URI"

/-- The members of a JWK that the derivation reads. -/
structure JWK where
  kty : String
  crv : String
  x : String
deriving DecidableEq

/-- What the derivation of identities takes from other packages. -/
structure IdentityPrimitives where
  /-- SHA-256 of a text -/
  sha256 : String → Bytes
  /-- `json.Unmarshal` into a JWK -/
  unmarshalJWK : Bytes → Except String JWK
  /-- a public key as a point of the Edwards curve and its Montgomery form -/
  bytesMontgomery : Bytes → Except String (Buffer 32)

variable (p : IdentityPrimitives)

def ed25519PubToX25519 (pub : Bytes) : Except String (Buffer 32) :=
  (p.bytesMontgomery pub).mapError ("parsing ed25519 public key: " ++ ·)

def deriveX25519PublicKey (uri : String) : Except String (Buffer 32) := do
  let d ← (parse uri).mapError ("parsing did uri: " ++ ·)
  if d.method ≠ "jwk" then .error ("expected did:jwk, got did:" ++ d.method)
  else
    match Base64.rawURLDecode d.id with
    | none => .error "decoding jwk: illegal base64 data"
    | some decoded => do
      let k ← (p.unmarshalJWK decoded).mapError ("unmarshaling jwk: " ++ ·)
      if k.kty ≠ "OKP" ∨ k.crv ≠ "Ed25519" then
        .error ("unsupported key type: kty=" ++ k.kty ++ " crv=" ++ k.crv ++ " (expected OKP/Ed25519)")
      else
        match Base64.rawURLDecode k.x with
        | none => .error "decoding public key: illegal base64 data"
        | some pubBytes =>
          if pubBytes.length ≠ 32 then
            .error ("invalid ed25519 public key length: " ++ toString pubBytes.length)
          else ed25519PubToX25519 p pubBytes

/-- `ParseURI`, on a URI of any bytes. `quote` is the verb `%q` of `fmt`. -/
def parseURI (unmarshalJWK : Bytes → Except String JWK) (quote : Bytes → String) (uri : Bytes) :
    Except String Bytes :=
  if uri.length ≤ 8 ∨ uri.take 8 ≠ ascii "did:jwk:" then .error ("not a did:jwk URI: " ++ quote uri)
  else
    match Base64.decodeBytes (uri.drop 8) with
    | none => .error "decoding base64url: illegal base64 data"
    | some decoded => do
      let k ← (unmarshalJWK decoded).mapError ("unmarshaling JWK: " ++ ·)
      if k.kty ≠ "OKP" ∨ k.crv ≠ "Ed25519" then
        .error ("not a did:jwk URI: unsupported key type kty=" ++ k.kty ++ " crv=" ++ k.crv)
      else
        match Base64.rawURLDecode k.x with
        | none => .error "decoding public key: illegal base64 data"
        | some pubBytes =>
          if pubBytes.length ≠ 32 then
            .error ("invalid key length: decoded " ++ toString pubBytes.length ++ " bytes, want 32")
          else .ok pubBytes

/-- The decoder skips line breaks but not the padding, so an accepted URI has no equals sign. -/
theorem equals_not_mem_of_parseURI {unmarshalJWK : Bytes → Except String JWK}
    {quote : Bytes → String} {uri pub : Bytes} (h : parseURI unmarshalJWK quote uri = .ok pub) :
    61 ∉ uri := by
  have hscheme : (61 : UInt8) ∉ ascii "did:jwk:" := by decide +kernel
  rw [parseURI, ite_error_eq_ok] at h
  obtain ⟨hstart, h⟩ := h
  split at h
  · cases h
  · next decoded hdecoded =>
    obtain ⟨-, hstart⟩ := not_or.mp hstart
    rw [← List.take_append_drop 8 uri, not_not.mp hstart, List.mem_append, not_or]
    exact ⟨hscheme, Base64.pad_not_mem_of_decodeBytes hdecoded⟩

end Meshd.Did

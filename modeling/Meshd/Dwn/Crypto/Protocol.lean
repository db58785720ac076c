import Meshd.Dwn.Crypto.Primitives
import Meshd.Framework.Fallible
import Meshd.Framework.Json

namespace Meshd.Dwn.Crypto

open Meshd.Framework

variable (c : Primitives)

/-- The index of the first empty segment. -/
def validateDerivationPath (path : List String) : Except String Unit :=
  match path.findIdx? (· = "") with
  | some i => .error ("invalid key derivation path: empty segment at index " ++ toString i)
  | none => .ok ()

def deriveKeyBytes (ancestorKey : Bytes) (derivationPath : List String) : Except String Bytes := do
  validateDerivationPath derivationPath
  return derivationPath.foldl c.hkdf ancestorKey

def derivePrivateKey (ancestorPrivateKey : Bytes) (derivationPath : List String) :
    Except String (Bytes × Bytes) := do
  let derivedPriv ← deriveKeyBytes c ancestorPrivateKey derivationPath
  let derivedPub ← (x25519PublicKey c derivedPriv).mapError ("computing derived public key: " ++ ·)
  return (derivedPriv, derivedPub)

def buildProtocolPathDerivation (protocolURI : String) (typeSegments : List String) : List String :=
  derivationSchemeProtocolPath :: protocolURI :: typeSegments

/-- The segments between slashes; empty ones are dropped. -/
def splitProtocolPath (path : String) : List String :=
  ((path.toList.splitOn '/').filter (· ≠ [])).map String.ofList

/-- The members of an `EncryptionKeyManager` that key derivation uses. -/
structure EncryptionKeyManager where
  rootPrivateKey : Bytes
  protocolURI : String

def EncryptionKeyManager.deriveDecryptionKey (m : EncryptionKeyManager) (protocolPath : String) :
    Except String Bytes := do
  let fullPath := buildProtocolPathDerivation m.protocolURI (splitProtocolPath protocolPath)
  let derived ← (derivePrivateKey c m.rootPrivateKey fullPath).mapError
    ("deriving decryption key for path " ++ protocolPath.quote ++ ": " ++ ·)
  return derived.1

def deriveRolePathKey (rootPrivateKey : Bytes) (protocol rolePath : String) : Except String Bytes :=
  deriveKeyBytes c rootPrivateKey (buildProtocolPathDerivation protocol (splitProtocolPath rolePath))

def rolePathPublicKeyJWK (rootPrivateKey : Bytes) (protocol rolePath : String) :
    Except String PublicKeyJWK := do
  let priv ← deriveRolePathKey c rootPrivateKey protocol rolePath
  let pub ← x25519PublicKey c priv
  return { kty := "OKP", crv := "X25519", x := Base64.rawURLEncode pub }

def keyAgreementDirective (publicKey : Bytes) : Json :=
  .obj [("publicKeyJwk", .obj [("kty", .str "OKP"), ("crv", .str "X25519"),
    ("x", .str (Base64.rawURLEncode publicKey))])]

/-- The members of a rule set that are no type names. -/
def isDirective (key : String) : Bool := key.toList.head? = some '$'

/-- An attachment point gets no key of its own. -/
def keyRuleSet (publicKey : Bytes) (ruleSet injected : List (String × Json)) :
    List (String × Json) :=
  if (Json.field "$ref" ruleSet).isSome then injected
  else Json.setField "$keyAgreement" (keyAgreementDirective publicKey) injected

mutual

/-- The loop of `injectEncryptionRecursive`. -/
def injectEncryptionRecursive (parentKey : Bytes) :
    List (String × Json) → Except String (List (String × Json))
  | [] => .ok []
  | member :: rest => do
    let member ← injectMember parentKey member
    let rest ← injectEncryptionRecursive parentKey rest
    return member :: rest

def injectMember (parentKey : Bytes) : String × Json → Except String (String × Json)
  | (key, value) =>
    if isDirective key then .ok (key, value)
    else (injectChild parentKey key value).map ((key, ·))

/-- One child rule set. The source sets the directive before it goes into the children, which the
loop over them skips (`injectEncryptionRecursive_setField`). -/
def injectChild (parentKey : Bytes) (key : String) : Json → Except String Json
  | .obj childRuleSet => do
    let (childPrivateKey, childPublicKey) ← (derivePrivateKey c parentKey [key]).mapError
      ("deriving key for path segment " ++ key.quote ++ ": " ++ ·)
    let injected ← injectEncryptionRecursive childPrivateKey childRuleSet
    return .obj (keyRuleSet childPublicKey childRuleSet injected)
  | .null => .ok .null
  | .bool b => .ok (.bool b)
  | .num n => .ok (.num n)
  | .str s => .ok (.str s)
  | .arr items => .ok (.arr items)

end

/-- `json.Unmarshal` into a `map[string]any`: a `null` leaves the map empty. -/
def unmarshalMap (definition : Json) : Except String (List (String × Json)) :=
  match definition.unmarshal with
  | some (.obj defMap) => .ok defMap
  | some .null => .ok []
  | _ => .error "parsing protocol definition: json: cannot unmarshal"

def protocolOf (defMap : List (String × Json)) : Except String String :=
  match (Json.field "protocol" defMap).bind Json.asString with
  | some protocolURI =>
    if protocolURI = "" then .error "protocol definition missing 'protocol' URI"
    else .ok protocolURI
  | none => .error "protocol definition missing 'protocol' URI"

def structureOf (defMap : List (String × Json)) : Except String (List (String × Json)) :=
  match (Json.field "structure" defMap).bind Json.asObject with
  | some ruleSets => .ok ruleSets
  | none => .error "protocol definition missing 'structure'"

def injectEncryptionDirectives (definition : Json) (rootPrivateKey : Bytes) :
    Except String Json := do
  let defMap ← unmarshalMap definition
  let protocolURI ← protocolOf defMap
  let ruleSets ← structureOf defMap
  let protocolLevelKey ← (deriveKeyBytes c rootPrivateKey
    [derivationSchemeProtocolPath, protocolURI]).mapError ("deriving protocol-level key: " ++ ·)
  let protocolLevelPub ← (x25519PublicKey c protocolLevelKey).mapError
    ("computing protocol-level public key: " ++ ·)
  let injected ← injectEncryptionRecursive c protocolLevelKey ruleSets
  return .obj (Json.setField "structure" (.obj injected)
    (Json.setField "$keyAgreement" (keyAgreementDirective protocolLevelPub) defMap))

/-- The rule set under the segments of a path. -/
def descend (ruleSets : List (String × Json)) : List String → Option (List (String × Json))
  | [] => some ruleSets
  | segment :: rest =>
    ((Json.field segment ruleSets).bind Json.asObject).bind fun next => descend next rest

/-- The loop of `ruleSetAtPath`. -/
def walkRuleSets (protocolPath : String) (current : List (String × Json)) :
    List String → Except String (List (String × Json))
  | [] => .ok current
  | seg :: rest =>
    match (Json.field seg current).bind Json.asObject with
    | some next => walkRuleSets protocolPath next rest
    | none => .error ("protocol path " ++ protocolPath.quote ++ " has no rule set at segment " ++
        seg.quote)

def ruleSetAtPath (ruleSets : List (String × Json)) (protocolPath : String) :
    Except String (List (String × Json)) :=
  walkRuleSets protocolPath ruleSets (splitProtocolPath protocolPath)

def keyAgreementPublicKey (ruleSet : List (String × Json)) : Except String Bytes :=
  match (Json.field "$keyAgreement" ruleSet).bind Json.asObject with
  | none => .error "rule set has no $keyAgreement directive"
  | some ka =>
    match (Json.field "publicKeyJwk" ka).bind Json.asObject with
    | none => .error "$keyAgreement has no publicKeyJwk"
    | some jwk =>
      match (Json.field "x" jwk).bind Json.asString with
      | none => .error "$keyAgreement publicKeyJwk has no x member"
      | some x =>
        if x = "" then .error "$keyAgreement publicKeyJwk has no x member"
        else do
          let pub ← (base64URLDecode x).mapError ("decoding $keyAgreement publicKeyJwk.x: " ++ ·)
          if pub.length ≠ x25519KeySize then
            .error ("$keyAgreement publicKeyJwk.x must be 32 bytes, got " ++ toString pub.length)
          else .ok pub

def keyAgreementPublicKeyAtPath (protocolDef : Json) (protocolPath : String) :
    Except String (Bytes × String) := do
  if protocolPath = "" then .error "protocolPath is required"
  else
    let defMap ← unmarshalMap protocolDef
    let ruleSets ← structureOf defMap
    let ruleSet ← ruleSetAtPath ruleSets protocolPath
    let pub ← (keyAgreementPublicKey ruleSet).mapError
      ("protocol path " ++ protocolPath.quote ++ ": " ++ ·)
    return (pub, thumbprintForPublicKey c pub)

section Derivation

variable {c}

theorem length_foldl_hkdf {path : List String} (h : path ≠ []) (key : Bytes) :
    (path.foldl c.hkdf key).length = 32 := by
  obtain ⟨front, last, rfl⟩ := List.eq_nil_or_concat path |>.resolve_left h
  rw [List.concat_eq_append, List.foldl_append]
  exact c.length_hkdf _ last

theorem deriveKeyBytes_ok {path : List String} (h : "" ∉ path) (key : Bytes) :
    deriveKeyBytes c key path = .ok (path.foldl c.hkdf key) := by
  have hnone : path.findIdx? (fun s => decide (s = "")) = none := by
    rw [List.findIdx?_eq_none_iff]
    intro s hs
    exact decide_eq_false fun he => h (he ▸ hs)
  simp only [deriveKeyBytes, validateDerivationPath, hnone]
  rfl

theorem derivePrivateKey_ok {path : List String} (h : "" ∉ path) (hne : path ≠ []) (key : Bytes) :
    derivePrivateKey c key path =
      .ok (path.foldl c.hkdf key, c.x25519Base (path.foldl c.hkdf key)) := by
  rw [derivePrivateKey, deriveKeyBytes_ok h, ok_bind,
    x25519PublicKey_ok (length_foldl_hkdf hne key)]
  rfl

/-- A path of type names comes back from its text. -/
theorem splitProtocolPath_intercalate {path : List String} (hne : path ≠ [])
    (h : ∀ name ∈ path, name ≠ "" ∧ '/' ∉ name.toList) :
    splitProtocolPath ("/".intercalate path) = path := by
  have hsplit : ("/".intercalate path).toList.splitOn '/' = path.map String.toList := by
    rw [String.toList_intercalate]
    refine List.splitOn_intercalate '/' ?_ (by simpa using hne)
    intro l hl
    obtain ⟨name, hname, rfl⟩ := List.mem_map.mp hl
    exact (h name hname).2
  have hfilter : (path.map String.toList).filter (· ≠ []) = path.map String.toList := by
    rw [List.filter_eq_self]
    intro l hl
    obtain ⟨name, hname, rfl⟩ := List.mem_map.mp hl
    simpa using (h name hname).1
  rw [splitProtocolPath, hsplit, hfilter, List.map_map]
  simp [Function.comp_def]

theorem intercalate_ne_empty {path : List String} (hne : path ≠ [])
    (h : ∀ name ∈ path, name ≠ "" ∧ '/' ∉ name.toList) : "/".intercalate path ≠ "" := by
  intro he
  have hsplit := splitProtocolPath_intercalate hne h
  rw [he] at hsplit
  exact hne (hsplit.symm.trans (by decide))

end Derivation

end Meshd.Dwn.Crypto

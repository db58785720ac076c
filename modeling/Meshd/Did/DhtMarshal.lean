import Meshd.Did.DhtRecords
import Meshd.Framework.DnsPack
import Meshd.Framework.MapEntries
import Meshd.Framework.Secp256k1
import Mathlib.Data.List.Sort

namespace Meshd.Did.Dht

open Meshd.Framework Strings

variable (p : Packages)

/-! ### Public keys as bytes -/

def okpPublicKeyToBytes (message : String) (publicKey : PublicJWK) : Except String Bytes :=
  if publicKey.x = "" then .error "x must be set"
  else
    match Base64.rawURLDecode publicKey.x with
    | none => .error (message ++ "illegal base64 data")
    | some publicKeyBytes => .ok publicKeyBytes

def ed25519PublicKeyToBytes : PublicJWK → Except String Bytes :=
  okpPublicKeyToBytes "failed to decode x "

def x25519PublicKeyToBytes : PublicJWK → Except String Bytes :=
  okpPublicKeyToBytes "failed to decode x: "

def secp256k1PublicKeyToUncheckedBytes (publicKey : PublicJWK) : Except String Bytes :=
  if publicKey.x = "" ∨ publicKey.y = "" then .error "x and y must be set"
  else
    match Base64.rawURLDecode publicKey.x with
    | none => .error "failed to decode x: illegal base64 data"
    | some x =>
      match Base64.rawURLDecode publicKey.y with
      | none => .error "failed to decode y: illegal base64 data"
      | some y => .ok (4 :: (x ++ y))

def secp256k1PublicKeyToBytes (publicKey : PublicJWK) : Except String Bytes := do
  let uncheckedBytes ← secp256k1PublicKeyToUncheckedBytes publicKey
  let key ← (p.parsePubKey uncheckedBytes).mapError ("invalid public key: " ++ ·)
  return Secp256k1.serializeUncompressed key

def publicKeyToBytes (publicKey : PublicJWK) : Except String Bytes :=
  if publicKey.kty = "EC" then
    if publicKey.crv = "secp256k1" then secp256k1PublicKeyToBytes p publicKey
    else .error ("unsupported curve: " ++ publicKey.crv)
  else if publicKey.kty = "OKP" then
    if publicKey.crv = "Ed25519" then ed25519PublicKeyToBytes publicKey
    else if publicKey.crv = "X25519" then x25519PublicKeyToBytes publicKey
    else .error ("unsupported curve: " ++ publicKey.crv)
  else .error ("unsupported key type: " ++ publicKey.kty)

def algorithmID (jwk : PublicJWK) : Except String String :=
  if jwk.kty = "EC" then
    if jwk.crv = "secp256k1" then .ok "secp256k1"
    else .error ("unsupported curve: " ++ jwk.crv)
  else if jwk.kty = "OKP" then
    if jwk.crv = "Ed25519" then .ok "Ed25519"
    else if jwk.crv = "X25519" then .ok "X25519"
    else .error ("unsupported curve: " ++ jwk.crv)
  else .error ("unsupported key type: " ++ jwk.kty)

def algToDhtIndex (algorithmID : String) : Option String :=
  if algorithmID = "Ed25519" then some "0"
  else if algorithmID = "secp256k1" then some "1"
  else if algorithmID = "X25519" then some "3"
  else none

/-! ### Records -/

def ttl : Nat := 7200

/-- `newResource`, with the check of `NewName`. -/
def newResource (name body : String) : Except String Dns.TXTRecord :=
  if (ascii name).length > 255 then .error Dns.PackError.calcLen.text
  else .ok { name := ascii name, ttl, txt := [ascii body] }

def marshalVerificationMethod (vm : VerificationMethod) : Except String String := do
  let keyBytes ← publicKeyToBytes p vm.publicKeyJwk
  let algID ← algorithmID vm.publicKeyJwk
  match algToDhtIndex algID with
  | none => .error "unsupported algorithm"
  | some t =>
    let splitID := split '#' vm.id
    let fragment := splitID.getLastD ""
    let props := ["id=" ++ fragment, "t=" ++ t, "k=" ++ Base64.rawURLEncode keyBytes]
    let props := if vm.controller ≠ "" then props ++ ["c=" ++ vm.controller] else props
    return ";".intercalate props

def marshalService (dhtDNSkey : String) (s : Service) : Except String Dns.TXTRecord :=
  let rawData :=
    "id=" ++ s.id ++ ";t=" ++ s.type ++ ";se=" ++ ",".intercalate s.serviceEndpoint
  newResource ("_" ++ dhtDNSkey ++ "._did.") rawData

/-! ### Documents -/

/-- The identifiers of the methods in their order as byte strings. -/
def pluckSort (hayStack : List VerificationMethod) : List String :=
  (hayStack.map (·.id)).insertionSort (· ≤ ·)

def methodsToKeys (methods : List String) (idToKey : GoMap String) : List String :=
  methods.filterMap idToKey.lookup

namespace Document

def vmIDToK (d : Document) : GoMap String := GoMap.numbered "k" (pluckSort d.verificationMethod)

def vmBEP44Keys (d : Document) : List String :=
  (pluckSort d.verificationMethod).zipIdx.map fun e => "k" ++ toString e.2

def sToK (d : Document) : GoMap String := GoMap.numbered "s" (d.service.map (·.id))

def sKeys (d : Document) : List String := d.service.zipIdx.map fun e => "s" ++ toString e.2

def rootProps (d : Document) : List (String × List String) :=
  [("v", ["1"]),
    ("id", [d.id]),
    ("vm", d.vmBEP44Keys),
    ("auth", methodsToKeys d.authentication d.vmIDToK),
    ("asm", methodsToKeys d.assertionMethod d.vmIDToK),
    ("agm", methodsToKeys d.keyAgreement d.vmIDToK),
    ("inv", methodsToKeys d.capabilityInvocation d.vmIDToK),
    ("del", methodsToKeys d.capabilityDelegation d.vmIDToK),
    ("srv", d.sKeys),
    ("cnt", d.controller),
    ("aka", d.alsoKnownAs)]

end Document

/-- `key=value,value`. -/
def property (e : String × List String) : String := e.1 ++ "=" ++ ",".intercalate e.2

/-- The properties of the root record that have a value, in the order in which Go visits them. -/
def rootRecord (order : GoMap.Order (List String)) (d : Document) : String :=
  ";".intercalate
    (((order.visit (GoMap.ofList d.rootProps)).filter (·.2 ≠ [])).map property)

/-- The records of the verification methods; one without a key would be left out. -/
def methodResources (vmIDToK : GoMap String) :
    List VerificationMethod → Except String (List Dns.TXTRecord)
  | [] => .ok []
  | vm :: rest =>
    match vmIDToK.lookup vm.id with
    | none => methodResources vmIDToK rest
    | some key => do
      let buf ← marshalVerificationMethod p vm
      let resource ← newResource ("_" ++ key ++ "._did.") buf
      let resources ← methodResources vmIDToK rest
      return resource :: resources

def serviceResources (sToK : GoMap String) : List Service → Except String (List Dns.TXTRecord)
  | [] => .ok []
  | s :: rest =>
    match sToK.lookup s.id with
    | none => serviceResources sToK rest
    | some key => do
      let resource ← marshalService key s
      let resources ← serviceResources sToK rest
      return resource :: resources

def marshalDIDDocument (order : GoMap.Order (List String)) (d : Document) :
    Except String Bytes := do
  let id := trimPrefix d.id "did:dht:"
  let root ← newResource ("_did." ++ id ++ ".") (rootRecord order d)
  let methods ← methodResources p d.vmIDToK d.verificationMethod
  let services ← serviceResources d.sToK d.service
  (Dns.pack (root :: (methods ++ services))).mapError Dns.PackError.text

end Meshd.Did.Dht

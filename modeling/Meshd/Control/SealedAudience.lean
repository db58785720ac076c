import Meshd.Control.AudienceSource
import Meshd.Dwn.Crypto.Seal
import Meshd.Dwn.Message

namespace Meshd.Control.Sealed

open Meshd.Framework Meshd.Dwn.Crypto
open Meshd.Dwn (RecordsWriteOptions MessageAuth)

/-! Audience records on the source DWN: how they are read, minted and unsealed. -/

def encryptionControlAudiencePath : String := "$encryption/audience"

def encryptionControlAudienceSchemaURI : String :=
  "https://identity.foundation/dwn/json-schemas/encryption/audience.json"

/-- `audienceRecord`. -/
structure StoredAudience where
  payload : AudiencePayload
  recordID : String
  dateCreated : String
  author : String
deriving DecidableEq

/-- The record with the members of its payload that `Current` reads. -/
def StoredAudience.toRecord (rec : StoredAudience) : AudienceRecord :=
  ⟨rec.payload.keyID, rec.payload.publicKeyJwk, rec.recordID, rec.dateCreated, rec.author⟩

/-! ### Entries -/

/-- The members of an entry that its projection reads: the record ID and the date of creation at the
top, and those under `recordsWrite` where there is one. -/
structure EntryMetadata where
  recordID : String
  dateCreated : String
  recordsWrite : Option (String × String)

/-- `json.Unmarshal` into the parts of an entry. Of its data, and of the signer, what is not there
or cannot be read is empty. -/
structure EntryReader where
  wrappedData : Bytes → String
  flatData : Bytes → String
  payload : Encoding AudiencePayload
  metadata : Bytes → Except String EntryMetadata
  signerDID : Bytes → String

def entryEncodedData (reader : EntryReader) (entry : Bytes) : Option Bytes :=
  let encoded :=
    if reader.wrappedData entry ≠ "" then reader.wrappedData entry else reader.flatData entry
  if encoded = "" then none else (base64URLDecode encoded).toOption

variable (c : Primitives)

def parseAudienceEntry (reader : EntryReader) (entry : Bytes) : Except String StoredAudience :=
  match entryEncodedData reader entry with
  | none => .error "audience entry has no inline data"
  | some data =>
    match reader.payload.unmarshal data with
    | none => .error "parsing audience payload: invalid payload"
    | some payload => do
      (verifyAudiencePayload c payload).mapError ("invalid audience payload: " ++ ·)
      let fields ← (reader.metadata entry).mapError ("parsing audience entry: " ++ ·)
      let (recordID, dateCreated) :=
        match fields.recordsWrite with
        | some inner => if fields.recordID = "" then inner else (fields.recordID, fields.dateCreated)
        | none => (fields.recordID, fields.dateCreated)
      return { payload, recordID, dateCreated, author := reader.signerDID entry }

/-- The entries that parse and match. -/
def parseAll (reader : EntryReader) (isMatch : AudiencePayload → Bool) (entries : List Bytes) :
    List StoredAudience :=
  entries.filterMap fun entry =>
    (parseAudienceEntry c reader entry).toOption.filter fun rec => isMatch rec.payload

/-- The first record in the order of `projectCurrentAudience`. -/
def projectCurrent (records : List StoredAudience) (tenant : String) : Option StoredAudience :=
  (records.insertionSort fun r r' => r'.toRecord.before tenant r.toRecord = false).head?

/-! ### The source -/

/-- What `RecordsWrite` gives: the status of the reply, if any, and the record that was built. -/
structure WriteResult where
  status : Option (Int × String)
  recordID : String
  dateCreated : String

/-- The DWN: what a query with some tags gives, and a write. -/
structure SourceDWN where
  query : List (String × String) → Except String (List Bytes)
  write : RecordsWriteOptions → Except String WriteResult

/-- The source's configuration; without seal keys it only reads. -/
structure SealedAudienceSource where
  tenant : String
  protoDef : Option Json
  writeAuth : MessageAuth := {}
  sealKeys : Option (String → String → Except String Bytes)
  reader : EntryReader
  dwn : SourceDWN

/-- What `rand.Reader` yields to a mint: the audience key, and the ephemeral key of its seal. -/
structure MintEntropy where
  audienceKey : Except String (Buffer 32)
  ephemeral : Except String (Buffer 32)

def tupleKey (protocol rolePath contextID : String) : String :=
  protocol ++ "\n" ++ rolePath ++ "\n" ++ contextID

namespace SealedAudienceSource

variable (src : SealedAudienceSource)

def queryAudience (filterTags : List (String × String)) (isMatch : AudiencePayload → Bool) :
    Except String (List StoredAudience) := do
  let entries ← (src.dwn.query filterTags).mapError ("querying audience records: " ++ ·)
  return parseAll c src.reader isMatch entries

/-- The record that a mint writes. -/
def mintOptions (entropy : MintEntropy) (protocol rolePath contextID : String) :
    Except String (AudiencePayload × RecordsWriteOptions) :=
  match src.sealKeys, src.protoDef with
  | none, _ =>
    .error ("no audience record exists for " ++ protocol ++ " " ++ rolePath ++ " ctx " ++
      contextID.quote ++ " and this node cannot mint one (no seal keys)")
  | some _, none => .error "protocol definition required to mint audience records"
  | some sealKeys, some protoDef => do
    let sealKey ← (sealKeys protocol rolePath).mapError
      (("refusing to mint audience for " ++ rolePath ++ " (no seal coverage): ") ++ ·)
    let (sealingPub, _) ← (keyAgreementPublicKeyAtPath c protoDef rolePath).mapError
      ("resolving role-path key agreement key: " ++ ·)
    let derivedSealPub ← (x25519PublicKey c sealKey).mapError
      (("deriving seal public key for " ++ rolePath ++ ": ") ++ ·)
    if derivedSealPub ≠ sealingPub then
      .error ("refusing to mint audience for " ++ rolePath ++
        ": seal key does not match installed protocol definition")
    else
      let km ← (generateAudienceKey c entropy.audienceKey).mapError ("generating audience key: " ++ ·)
      let payload ← (buildAudiencePayload c entropy.ephemeral km sealingPub protocol rolePath
        contextID).mapError ("sealing audience key: " ++ ·)
      return (payload,
        { protocol, protocolPath := encryptionControlAudiencePath
          schema := encryptionControlAudienceSchemaURI, dataFormat := "application/json"
          data := src.reader.payload.marshal payload
          tags := [("protocol", .str protocol), ("rolePath", .str rolePath),
            ("contextId", .str contextID), ("keyId", .str payload.keyID)]
          protocolRole := src.writeAuth.protocolRole
          permissionGrantID := src.writeAuth.permissionGrantID
          delegatedGrant := src.writeAuth.delegatedGrant })

def mint (entropy : MintEntropy) (protocol rolePath contextID : String) :
    Except String StoredAudience := do
  let (payload, opts) ← src.mintOptions c entropy protocol rolePath contextID
  let result ← (src.dwn.write opts).mapError ("writing audience record: " ++ ·)
  match result.status with
  | none => .error "audience record write failed: 0 nil reply"
  | some (code, detail) =>
    if 300 ≤ code then
      .error ("audience record write failed: " ++ toString code ++ " " ++ detail)
    else
      .ok { payload, recordID := result.recordID, dateCreated := result.dateCreated
            author := src.tenant }

/-- `current`, with minting, and the cache it leaves. -/
def current (entropy : MintEntropy) (cache : GoMap StoredAudience)
    (protocol rolePath contextID : String) :
    Except String StoredAudience × GoMap StoredAudience :=
  let key := tupleKey protocol rolePath contextID
  match cache.lookup key with
  | some rec => (.ok rec, cache)
  | none =>
    match src.queryAudience c [("protocol", protocol), ("rolePath", rolePath),
      ("contextId", contextID)]
      (fun p => p.protocol = protocol ∧ p.rolePath = rolePath ∧ p.contextID = contextID) with
    | .error e => (.error e, cache)
    | .ok records =>
      match projectCurrent records src.tenant with
      | some rec => (.ok rec, cache.insert key rec)
      | none =>
        match src.mint c entropy protocol rolePath contextID with
        | .error e => (.error e, cache)
        | .ok rec => (.ok rec, cache.insert key rec)

/-- `Current`. -/
def currentKey (entropy : MintEntropy) (cache : GoMap StoredAudience)
    (protocol rolePath contextID : String) : Except String (Bytes × String) := do
  let rec ← (src.current c entropy cache protocol rolePath contextID).1
  let pub ← (publicKeyBytesFromJWK rec.payload.publicKeyJwk).mapError
    ("parsing audience public key: " ++ ·)
  return (pub, rec.payload.keyID)

def audienceByKeyID (cache : GoMap StoredAudience) (protocol rolePath keyID : String) :
    Except String StoredAudience :=
  match cache.values.find? fun rec =>
    rec.payload.keyID = keyID ∧ rec.payload.protocol = protocol ∧ rec.payload.rolePath = rolePath with
  | some rec => .ok rec
  | none => do
    let records ← src.queryAudience c [("protocol", protocol), ("rolePath", rolePath),
      ("keyId", keyID)]
      (fun p => p.protocol = protocol ∧ p.rolePath = rolePath ∧ p.keyID = keyID)
    match records.head? with
    | none => .error ("no audience record for keyId " ++ keyID ++ " (" ++ protocol ++ " " ++ rolePath ++
        ")")
    | some rec => .ok rec

def audiencePrivateKeyByKeyID (cache : GoMap StoredAudience) (protocol rolePath keyID : String) :
    Except String Bytes :=
  match src.sealKeys with
  | none => .error "no seal keys available"
  | some sealKeys => do
    let rec ← src.audienceByKeyID c cache protocol rolePath keyID
    let sealKey ← (sealKeys protocol rolePath).mapError
      (("deriving seal key for " ++ rolePath ++ ": ") ++ ·)
    unsealAudienceRecord c rec.payload sealKey

end SealedAudienceSource

end Meshd.Control.Sealed

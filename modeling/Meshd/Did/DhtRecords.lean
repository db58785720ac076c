import Meshd.Did.Jwk
import Meshd.Framework.DnsMessage
import Meshd.Framework.Go
import Meshd.Framework.Strings

namespace Meshd.Did.Dht

open Meshd.Framework Strings

/-! ### DID documents -/

/-- A JWK with the second coordinate of a point. -/
structure PublicJWK extends JWK where
  y : String := ""
deriving DecidableEq

structure VerificationMethod where
  id : String
  type : String
  controller : String
  publicKeyJwk : PublicJWK
deriving DecidableEq

structure Service where
  id : String
  type : String
  serviceEndpoint : List String
deriving DecidableEq

inductive Purpose where
  | assertion
  | authentication
  | capabilityDelegation
  | capabilityInvocation
  | keyAgreement
deriving DecidableEq

structure Document where
  id : String
  alsoKnownAs : List String := []
  controller : List String := []
  verificationMethod : List VerificationMethod := []
  service : List Service := []
  assertionMethod : List String := []
  authentication : List String := []
  keyAgreement : List String := []
  capabilityDelegation : List String := []
  capabilityInvocation : List String := []
deriving DecidableEq

namespace Document

/-- The identifier of a method in the list of a purpose. -/
def addPurpose (id : String) (d : Document) : Purpose → Document
  | .assertion => { d with assertionMethod := d.assertionMethod ++ [id] }
  | .authentication => { d with authentication := d.authentication ++ [id] }
  | .keyAgreement => { d with keyAgreement := d.keyAgreement ++ [id] }
  | .capabilityDelegation => { d with capabilityDelegation := d.capabilityDelegation ++ [id] }
  | .capabilityInvocation => { d with capabilityInvocation := d.capabilityInvocation ++ [id] }

def addVerificationMethod (d : Document) (method : VerificationMethod) (purposes : List Purpose) :
    Document :=
  purposes.foldl (addPurpose method.id)
    { d with verificationMethod := d.verificationMethod ++ [method] }

def addService (d : Document) (service : Service) : Document :=
  { d with service := d.service ++ [service] }

@[simp] theorem id_addVerificationMethod (d : Document) (method : VerificationMethod)
    (purposes : List Purpose) : (d.addVerificationMethod method purposes).id = d.id := by
  have hfold : ∀ (ps : List Purpose) (d : Document),
      (ps.foldl (addPurpose method.id) d).id = d.id := by
    intro ps
    induction ps with
    | nil => exact fun _ => rfl
    | cons purpose ps ih =>
      intro d
      rw [List.foldl_cons, ih]
      cases purpose <;> rfl
  exact hfold purposes _

end Document

/-! ### Public keys -/

/-- What the decoder takes from other packages and from the order of Go's maps. -/
structure Packages where
  /-- the coordinates of a secp256k1 public key, without leading zeros -/
  parsePubKey : Bytes → Except String (Bytes × Bytes)
  /-- whether the text is a request URI -/
  parseRequestURI : String → Bool
  recordOrder : GoMap.Order String
  propertyOrder : GoMap.Order (List String)

variable (p : Packages)

def okpBytesToPublicKey (curve message : String) (input : Bytes) : Except String PublicJWK :=
  if input.length ≠ 32 then .error message
  else .ok { kty := "OKP", crv := curve, x := Base64.rawURLEncode input }

def ed25519BytesToPublicKey : Bytes → Except String PublicJWK :=
  okpBytesToPublicKey "Ed25519" "invalid public key"

def x25519BytesToPublicKey : Bytes → Except String PublicJWK :=
  okpBytesToPublicKey "X25519" "invalid X25519 public key: must be 32 bytes"

def secp256k1BytesToPublicKey (input : Bytes) : Except String PublicJWK := do
  let (x, y) ← (p.parsePubKey input).mapError ("failed to parse public key: " ++ ·)
  return {
    kty := "EC"
    crv := "secp256k1"
    x := Base64.rawURLEncode x
    y := Base64.rawURLEncode y }

def bytesToPublicKey (algorithmID : String) (input : Bytes) : Except String PublicJWK :=
  if algorithmID = "secp256k1" then secp256k1BytesToPublicKey p input
  else if algorithmID = "Ed25519" then ed25519BytesToPublicKey input
  else if algorithmID = "X25519" then x25519BytesToPublicKey input
  else .error ("unsupported algorithm: " ++ algorithmID)

/-- The algorithm of a key type index, empty for the others. -/
def dhtIndexToAlg (index : String) : String :=
  if index = "0" then "Ed25519"
  else if index = "1" then "secp256k1"
  else if index = "3" then "X25519"
  else ""

def vmPurposeDNStoDID (name : String) : Option Purpose :=
  if name = "auth" then some .authentication
  else if name = "asm" then some .assertion
  else if name = "agm" then some .keyAgreement
  else if name = "inv" then some .capabilityInvocation
  else if name = "del" then some .capabilityDelegation
  else none

/-! ### TXT records -/

/-- One `key=value,value` of a record; the values of a key that comes again are appended. -/
def addField (result : GoMap (List String)) (field : String) :
    Except String (GoMap (List String)) :=
  match split '=' field with
  | [k, v] => .ok (result.insert k ((result.lookup k).getD [] ++ split ',' v))
  | _ => .error ("malformed field " ++ field)

def parseTXTRecordData (data : String) : Except String (GoMap (List String)) :=
  (split ';' data).foldlM addField ∅

/-- Every field of the record is a key and its values. -/
def WellFormed (data : String) : Prop := ∀ field ∈ split ';' data, (split '=' field).length = 2

instance (data : String) : Decidable (WellFormed data) :=
  inferInstanceAs (Decidable (∀ field ∈ split ';' data, _))

theorem addField_ok_iff {result : GoMap (List String)} {field : String} :
    (∃ r, addField result field = .ok r) ↔ (split '=' field).length = 2 := by
  rw [addField]
  split
  · next k v heq => simp [heq]
  · next hne =>
    have hlength : (split '=' field).length ≠ 2 := by
      intro h
      obtain ⟨k, v, heq⟩ := List.length_eq_two.mp h
      exact hne k v heq
    simp [hlength]

theorem foldlM_addField_ok_iff {fields : List String} {result : GoMap (List String)} :
    (∃ r, fields.foldlM addField result = .ok r) ↔ ∀ field ∈ fields, (split '=' field).length = 2 := by
  induction fields generalizing result with
  | nil => simp [pure, Except.pure]
  | cons field fields ih =>
    have hfirst : (∃ r, addField result field = .ok r) ↔ _ := addField_ok_iff
    rw [List.foldlM_cons, List.forall_mem_cons, ← hfirst]
    constructor
    · intro h
      obtain ⟨r, h⟩ := h
      obtain ⟨next, hfield, hrest⟩ := bind_eq_ok.mp h
      exact ⟨⟨next, hfield⟩, ih.mp ⟨r, hrest⟩⟩
    · intro h
      obtain ⟨⟨next, hfield⟩, hfields⟩ := h
      obtain ⟨r, hrest⟩ := ih.mpr hfields
      exact ⟨r, bind_eq_ok.mpr ⟨next, hfield, hrest⟩⟩

theorem parseTXTRecordData_ok_iff {data : String} :
    (∃ m, parseTXTRecordData data = .ok m) ↔ WellFormed data :=
  foldlM_addField_ok_iff

/-- The value of a property, its parts joined; empty where the record does not have it. -/
def joined (properties : GoMap (List String)) (name : String) : String :=
  String.join ((properties.lookup name).getD [])

def unmarshalVerificationMethod (data did : String) : Except String VerificationMethod := do
  let propertyMap ← parseTXTRecordData data
  let id := if (propertyMap.lookup "id").isSome then did ++ "#" ++ joined propertyMap "id" else ""
  let algorithmID := dhtIndexToAlg (joined propertyMap "t")
  let key := joined propertyMap "k"
  -- a method without a controller is controlled by the DID itself
  let controller := if joined propertyMap "c" = "" then did else joined propertyMap "c"
  if key = "" ∨ algorithmID = "" then .error "unable to parse public key"
  else
    match Base64.rawURLDecode key with
    | none => .error "illegal base64 data"
    | some keyBytes =>
      if keyBytes = [] then .error "malformed public key"
      else do
        let j ← bytesToPublicKey p algorithmID keyBytes
        if id = "" then .error "malformed verification method representation"
        else .ok { id, type := "JsonWebKey", controller, publicKeyJwk := j }

def unmarshalService (data : String) : Except String Service := do
  let propertyMap ← parseTXTRecordData data
  let endpoints := (propertyMap.lookup "se").getD []
  if ¬ endpoints.all p.parseRequestURI then .error "invalid service endpoint"
  else
    .ok {
      id := joined propertyMap "id"
      type := joined propertyMap "t"
      serviceEndpoint := endpoints }

/-- The properties of the root record by their value: which purposes a key has. -/
def parseVerificationRelationships (rootRecord : String) :
    Except String (GoMap (List String)) := do
  let rootRecordProps ← parseTXTRecordData rootRecord
  return (p.propertyOrder.visit rootRecordProps).foldl (fun relationshipMap (k, values) =>
    let v := String.join values
    relationshipMap.insert v ((relationshipMap.lookup v).getD [] ++ [k])) ∅

theorem parseVerificationRelationships_ok_iff {rootRecord : String} :
    (∃ m, parseVerificationRelationships p rootRecord = .ok m) ↔ WellFormed rootRecord := by
  rw [← parseTXTRecordData_ok_iff]
  constructor
  · intro h
    obtain ⟨m, h⟩ := h
    obtain ⟨props, hprops, -⟩ := bind_eq_ok.mp h
    exact ⟨props, hprops⟩
  · intro h
    obtain ⟨props, hprops⟩ := h
    exact ⟨_, bind_eq_ok.mpr ⟨props, hprops, rfl⟩⟩

/-! ### The decoder -/

/-- A TXT record of the answer section. -/
structure Answer where
  name : String
  text : String
deriving DecidableEq

structure Decoder where
  id : String := ""
  rootRecord : String := ""
  records : GoMap String := ∅

namespace Decoder

/-- The identifier in the name of a root record. -/
def rootID (name : String) : String := trimSuffix (trimPrefix name "_did.") "."

def add (didRecord : Decoder) (a : Answer) : Decoder :=
  if hasPrefix a.name "_did" then { didRecord with id := rootID a.name, rootRecord := a.text }
  else { didRecord with records := didRecord.records.insert a.name a.text }

/-- The identifier of a name that ends in a dot is the one between `_did.` and that dot. -/
theorem rootID_eq_iff {name id : String} (hroot : hasPrefix name "_did" = true)
    (hdot : ∃ front, name = front ++ ".") (hne : id ≠ "") (hid : '_' ∉ id.toList) :
    rootID name = id ↔ name = "_did." ++ id ++ "." := by
  constructor
  · intro h
    obtain ⟨front, hfront⟩ := hdot
    cases hlabel : hasPrefix name "_did." with
    | true =>
      obtain ⟨rest, rfl⟩ := hasPrefix_iff.mp hlabel
      rw [rootID, trimPrefix_append] at h
      obtain hnil | ⟨init, c, hrest⟩ := List.eq_nil_or_concat rest.toList
      · have hempty : rest = "" := String.toList_inj.mp hnil
        rw [hempty] at h
        exact absurd h.symm hne
      · rw [List.concat_eq_append] at hrest
        have hlast : ("_did.".toList ++ init) ++ [c] = front.toList ++ ['.'] := by
          rw [List.append_assoc, ← hrest, ← String.toList_append, hfront, String.toList_append]
          rfl
        obtain ⟨-, hc⟩ := List.append_inj' hlast rfl
        have hsplit : rest = String.ofList init ++ "." := String.toList_inj.mp (by simp [hrest, hc])
        rw [hsplit, trimSuffix_append] at h
        rw [hsplit, h, String.append_assoc]
    | false =>
      -- the name would be the identifier with a dot, and begin with an underscore
      rw [rootID, trimPrefix_of_not hlabel, hfront, trimSuffix_append] at h
      obtain ⟨rest, hrest⟩ := hasPrefix_iff.mp hroot
      have hfirst : (front ++ ".").toList = '_' :: ("did" ++ rest).toList := by
        rw [← hfront, hrest]
        simp
      rw [h] at hfirst
      cases hchars : id.toList with
      | nil => simp [hchars] at hfirst
      | cons c cs =>
        have hc : c = '_' := by
          rw [String.toList_append, hchars] at hfirst
          exact (List.cons.inj hfirst).1
        exact absurd (by simp [hchars, hc]) hid
  · intro h
    subst h
    rw [rootID, String.append_assoc, trimPrefix_append, trimSuffix_append]

/-- The entry of a verification method in the root record: `kN` of `_kN._did`. -/
def entryID (name : String) : String :=
  String.ofList (((split '.' name).headD "").toList.drop 1)

def addRecord (relationshipMap : GoMap (List String)) (document : Document) (name data : String) :
    Document :=
  if hasPrefix name "_k" then
    match unmarshalVerificationMethod p data document.id, relationshipMap.lookup (entryID name) with
    | .ok vMethod, some relationships =>
      document.addVerificationMethod vMethod (relationships.filterMap vmPurposeDNStoDID)
    | _, _ => document
  else if hasPrefix name "_s" then
    match unmarshalService p data with
    | .ok service => document.addService service
    | .error _ => document
  else if hasPrefix name "_cnt" then { document with controller := split ',' data }
  else if hasPrefix name "_aka" then { document with alsoKnownAs := split ',' data }
  else document

def didDocument (rec : Decoder) : Except String Document :=
  if rec.rootRecord = "" then .error "no root record found"
  else do
    let relationshipMap ← parseVerificationRelationships p rec.rootRecord
    return (p.recordOrder.visit rec.records).foldl
      (fun document (name, data) => addRecord p relationshipMap document name data)
      { id := "did:dht:" ++ rec.id }

variable {p}

@[simp] theorem id_addRecord (relationshipMap : GoMap (List String)) (document : Document)
    (name data : String) : (addRecord p relationshipMap document name data).id = document.id := by
  rw [addRecord]
  split
  · split
    · simp
    · rfl
  · split
    · split <;> rfl
    · split
      · rfl
      · split <;> rfl

theorem id_foldl_addRecord (relationshipMap : GoMap (List String))
    (records : List (String × String)) (document : Document) :
    (records.foldl (fun document r => addRecord p relationshipMap document r.1 r.2) document).id =
      document.id := by
  induction records generalizing document with
  | nil => rfl
  | cons r records ih => rw [List.foldl_cons, ih, id_addRecord]

/-- The document has the identifier of the root record, whoever has written it. -/
theorem didDocument_ok {rec : Decoder} {doc : Document} (h : rec.didDocument p = .ok doc) :
    doc.id = "did:dht:" ++ rec.id ∧ rec.rootRecord ≠ "" ∧ WellFormed rec.rootRecord := by
  rw [didDocument, ite_error_eq_ok] at h
  obtain ⟨hroot, h⟩ := h
  obtain ⟨relationshipMap, hmap, h⟩ := bind_eq_ok.mp h
  cases h
  exact ⟨id_foldl_addRecord _ _ _, hroot,
    (parseVerificationRelationships_ok_iff p).mp ⟨relationshipMap, hmap⟩⟩

theorem exists_didDocument {rec : Decoder} (hroot : rec.rootRecord ≠ "")
    (hwf : WellFormed rec.rootRecord) : ∃ doc, rec.didDocument p = .ok doc := by
  obtain ⟨relationshipMap, hmap⟩ := (parseVerificationRelationships_ok_iff p).mpr hwf
  exact ⟨_, ite_error_eq_ok.mpr ⟨hroot, bind_eq_ok.mpr ⟨relationshipMap, hmap, rfl⟩⟩⟩

/-- The last root record of the answers, the one whose identifier counts. -/
def lastRoot (answers : List Answer) : Option Answer :=
  (answers.filter fun a => hasPrefix a.name "_did").getLast?

theorem foldl_add (answers : List Answer) (rec : Decoder) :
    (answers.foldl add rec).id = ((lastRoot answers).map fun a => rootID a.name).getD rec.id ∧
      (answers.foldl add rec).rootRecord =
        ((lastRoot answers).map Answer.text).getD rec.rootRecord := by
  induction answers using List.reverseRecOn with
  | nil => exact ⟨rfl, rfl⟩
  | append_singleton answers a ih =>
    rw [List.foldl_append, List.foldl_cons, List.foldl_nil, add]
    split
    · next hroot => simp [lastRoot, hroot]
    · next hroot => simpa [lastRoot, hroot] using ih

end Decoder

/-- The loop of `parseDNSDID`; `none` where it still runs. What is not a TXT record is not skipped,
so that the next round reads its header again. -/
def parseAnswers : Nat → Dns.Parser → Decoder → Option (Except String Decoder)
  | 0, _, _ => none
  | fuel + 1, parser, didRecord =>
    match Dns.Parser.answerHeader parser with
    | .error .sectionDone _ => some (.ok didRecord)
    -- the header is then the zero value, whose type is not TXT
    | .error _ parser => parseAnswers fuel parser didRecord
    | .ok h parser =>
      if h.type ≠ Dns.typeTXT then parseAnswers fuel parser didRecord
      else
        match Dns.Parser.txtResource parser with
        | .error e _ => some (.error e.text)
        | .ok txt parser =>
          parseAnswers fuel parser
            (didRecord.add { name := ofBytes h.name, text := ofBytes txt.flatten })

def parseDNSDID (fuel : Nat) (data : Bytes) : Option (Except String Decoder) :=
  match Dns.Parser.start data >>= Dns.Parser.skipAllQuestions with
  | .error e => some (.error e.text)
  | .ok parser => parseAnswers fuel parser {}

def unmarshalDIDDocument (fuel : Nat) (payload : Bytes) : Option (Except String Document) :=
  (parseDNSDID fuel payload).map fun decoder => decoder >>= Decoder.didDocument p

/-! ### The answers of a payload -/

/-- The answer section, from where the parser stands, has these TXT records and no others. -/
inductive Reads : Dns.Parser → List Answer → Prop
  | done {parser parser' : Dns.Parser}
      (h : Dns.Parser.answerHeader parser = .error .sectionDone parser') : Reads parser []
  | txt {parser parser₁ parser₂ : Dns.Parser} {h : Dns.ResourceHeader} {txt : List Bytes}
      {answers : List Answer} (hheader : Dns.Parser.answerHeader parser = .ok h parser₁)
      (htype : h.type = Dns.typeTXT) (htxt : Dns.Parser.txtResource parser₁ = .ok txt parser₂)
      (hrest : Reads parser₂ answers) :
      Reads parser ({ name := ofBytes h.name, text := ofBytes txt.flatten } :: answers)

/-- At a record of another type the loop never ends. -/
theorem parseAnswers_endless {parser : Dns.Parser} {h : Dns.ResourceHeader}
    (hheader : Dns.Parser.answerHeader parser = .ok h parser) (htype : h.type ≠ Dns.typeTXT)
    (fuel : Nat) (didRecord : Decoder) : parseAnswers fuel parser didRecord = none := by
  induction fuel with
  | zero => rfl
  | succ fuel ih => simp only [parseAnswers, hheader, if_pos htype, ih]

theorem parseAnswers_error {fuel : Nat} {parser parser' : Dns.Parser} {e : Dns.Error}
    {didRecord : Decoder} (hheader : Dns.Parser.answerHeader parser = .error e parser')
    (he : e ≠ .sectionDone) :
    parseAnswers (fuel + 1) parser didRecord = parseAnswers fuel parser' didRecord := by
  cases e with
  | sectionDone => exact absurd rfl he
  | _ => simp only [parseAnswers, hheader]

/-- Nor does it end where the message breaks off. -/
theorem parseAnswers_endless_of_error {parser : Dns.Parser} {e : Dns.Error}
    (hheader : Dns.Parser.answerHeader parser = .error e parser) (he : e ≠ .sectionDone)
    (fuel : Nat) (didRecord : Decoder) : parseAnswers fuel parser didRecord = none := by
  induction fuel with
  | zero => rfl
  | succ fuel ih => rw [parseAnswers_error hheader he, ih]

theorem reads_of_parseAnswers {fuel : Nat} {parser : Dns.Parser} {didRecord result : Decoder}
    (h : parseAnswers fuel parser didRecord = some (.ok result)) :
    ∃ answers, Reads parser answers ∧ result = answers.foldl Decoder.add didRecord := by
  induction fuel generalizing parser didRecord with
  | zero => cases h
  | succ fuel ih =>
    cases hheader : Dns.Parser.answerHeader parser with
    | error e parser' =>
      by_cases he : e = .sectionDone
      · subst he
        simp only [parseAnswers, hheader] at h
        cases h
        exact ⟨[], .done hheader, rfl⟩
      · have hagain := Dns.Parser.resourceHeader_error_again hheader he
        rw [parseAnswers_error hheader he, parseAnswers_endless_of_error hagain he] at h
        cases h
    | ok hdr parser' =>
      simp only [parseAnswers, hheader] at h
      by_cases htype : hdr.type = Dns.typeTXT
      · simp only [htype, ne_eq, not_true_eq_false, if_false] at h
        cases htxt : Dns.Parser.txtResource parser' with
        | error e parser'' => simp [htxt] at h
        | ok txt parser'' =>
          simp only [htxt] at h
          obtain ⟨answers, hreads, rfl⟩ := ih h
          exact ⟨_, .txt hheader htype htxt hreads, rfl⟩
      · rw [if_pos htype, parseAnswers_endless (Dns.Parser.resourceHeader_again hheader) htype] at h
        cases h

theorem parseAnswers_of_reads {parser : Dns.Parser} {answers : List Answer}
    (h : Reads parser answers) (didRecord : Decoder) :
    ∃ fuel, parseAnswers fuel parser didRecord = some (.ok (answers.foldl Decoder.add didRecord)) := by
  induction h generalizing didRecord with
  | done hheader => exact ⟨1, by simp only [parseAnswers, hheader, List.foldl_nil]⟩
  | txt hheader htype htxt _ ih =>
    obtain ⟨fuel, hfuel⟩ := ih (didRecord.add _)
    refine ⟨fuel + 1, ?_⟩
    simp only [parseAnswers, hheader, htype, ne_eq, not_true_eq_false, if_false, htxt,
      List.foldl_cons]
    exact hfuel

/-! ### Whether the decoder returns -/

/-- The next `n` records from `off` on are TXT records, up to one with a body that is not a list of
texts. -/
def TXTRecords (msg : Bytes) : Nat → Nat → Prop
  | 0, _ => True
  | n + 1, off =>
    ∃ hdr body, Dns.unpackResourceHeader msg off = .ok (hdr, body) ∧ hdr.type = Dns.typeTXT ∧
      ∀ txt, Dns.unpackTXTResource msg body hdr.length = .ok txt →
        TXTRecords msg n (body + hdr.length)

/-- The answers of a payload whose header and questions can be read are TXT records. -/
def TXTAnswers (payload : Bytes) : Prop :=
  ∀ header off answers, Dns.Header.unpack payload 0 = .ok (header, off) →
    Dns.Parser.questionsEnd payload header.questions off = .ok answers →
    TXTRecords payload header.answers answers

theorem isSome_of_txtRecords {n : Nat} {parser : Dns.Parser} (hat : parser.At .answers n)
    (h : TXTRecords parser.msg n parser.off) (didRecord : Decoder) :
    (parseAnswers (n + 1) parser didRecord).isSome = true := by
  induction n generalizing parser didRecord with
  | zero =>
    simp only [parseAnswers, hat.answerHeader_done]
    rfl
  | succ n ih =>
    obtain ⟨hdr, body, hunpack, htype, hrest⟩ := h
    rw [parseAnswers]
    simp only [hat.answerHeader_ok hunpack, htype, ne_eq, not_true_eq_false, if_false]
    cases htxt : Dns.unpackTXTResource parser.msg body hdr.length with
    | error e =>
      simp only [Dns.Parser.txtResource_error htype htxt]
      rfl
    | ok txt =>
      simp only [Dns.Parser.txtResource_ok htype htxt]
      exact ih hat.afterBody (hrest txt htxt) _

theorem txtRecords_of_isSome {n fuel : Nat} {parser : Dns.Parser} {didRecord : Decoder}
    (hat : parser.At .answers n) (h : (parseAnswers fuel parser didRecord).isSome = true) :
    TXTRecords parser.msg n parser.off := by
  induction fuel generalizing n parser didRecord with
  | zero => cases h
  | succ fuel ih =>
    cases n with
    | zero => trivial
    | succ n =>
      cases hunpack : Dns.unpackResourceHeader parser.msg parser.off with
      | error e =>
        have hheader := hat.answerHeader_error hunpack
        rw [parseAnswers_endless_of_error hheader
          (Dns.Parser.unpackResourceHeader_error e hunpack)] at h
        cases h
      | ok r =>
        have hheader := hat.answerHeader_ok hunpack
        rw [parseAnswers, hheader] at h
        by_cases htype : r.1.type = Dns.typeTXT
        · refine ⟨r.1, r.2, hunpack, htype, fun txt htxt => ?_⟩
          simp only [htype, ne_eq, not_true_eq_false, if_false,
            Dns.Parser.txtResource_ok htype htxt] at h
          exact ih hat.afterBody h
        · have hagain := Dns.Parser.resourceHeader_again hheader
          simp only [ne_eq, htype, not_false_eq_true, if_true,
            parseAnswers_endless hagain htype] at h
          cases h

theorem parseDNSDID_eq {fuel off answers : Nat} {payload : Bytes} {header : Dns.Header}
    (hheader : Dns.Header.unpack payload 0 = .ok (header, off))
    (hquestions : Dns.Parser.questionsEnd payload header.questions off = .ok answers) :
    parseDNSDID fuel payload =
      parseAnswers fuel { msg := payload, header, sec := .answers, off := answers } {} := by
  have hskip := Dns.Parser.skipAllQuestions_eq
    (p := { msg := payload, header, off, sec := .questions }) ⟨rfl, rfl, Nat.zero_add _⟩
  simp only [Dns.Header.count, hquestions, ok_map] at hskip
  simp only [parseDNSDID, Dns.Parser.start, hheader, mapError_ok, ok_bind, pure, Except.pure, hskip]

/-- What is not read as a header and questions is refused. -/
theorem parseDNSDID_refuses {payload : Bytes}
    (h : ∀ header off answers, Dns.Header.unpack payload 0 = .ok (header, off) →
      Dns.Parser.questionsEnd payload header.questions off ≠ .ok answers) (fuel : Nat) :
    (parseDNSDID fuel payload).isSome = true := by
  rw [parseDNSDID]
  cases hstart : Dns.Parser.start payload >>= Dns.Parser.skipAllQuestions with
  | error e => rfl
  | ok parser =>
    obtain ⟨_, hbegin, hskip⟩ := bind_eq_ok.mp hstart
    obtain ⟨⟨header, off⟩, hheader, hbegin⟩ := bind_eq_ok.mp hbegin
    cases hbegin
    rw [Dns.Parser.skipAllQuestions_eq ⟨rfl, rfl, Nat.zero_add _⟩] at hskip
    obtain ⟨answers, hquestions, -⟩ := map_eq_ok.mp hskip
    exact absurd hquestions (h header off answers (mapError_eq_ok.mp hheader))

/-- The decoder returns exactly on the payloads whose answers are TXT records. On a record of another
type, or where the message breaks off inside a header, its loop reads the same header for ever. -/
theorem parseDNSDID_returns_iff (payload : Bytes) :
    (∃ fuel, (parseDNSDID fuel payload).isSome = true) ↔ TXTAnswers payload := by
  constructor
  · rintro ⟨fuel, h⟩ header off answers hheader hquestions
    rw [parseDNSDID_eq hheader hquestions] at h
    exact txtRecords_of_isSome ⟨rfl, rfl, Nat.zero_add _⟩ h
  · intro h
    by_cases hread : ∃ header off answers, Dns.Header.unpack payload 0 = .ok (header, off) ∧
        Dns.Parser.questionsEnd payload header.questions off = .ok answers
    · obtain ⟨header, off, answers, hheader, hquestions⟩ := hread
      refine ⟨header.answers + 1, ?_⟩
      rw [parseDNSDID_eq hheader hquestions]
      exact isSome_of_txtRecords ⟨rfl, rfl, Nat.zero_add _⟩ (h header off answers hheader hquestions) {}
    · refine ⟨0, parseDNSDID_refuses (fun header off answers hheader hquestions => ?_) 0⟩
      exact hread ⟨header, off, answers, hheader, hquestions⟩

/-- The header of a message with one answer. -/
def oneAnswer : Bytes := [0, 0, 0, 0, 0, 0, 0, 1, 0, 0, 0, 0]

/-- That answer as an address record. -/
def addressRecord : Bytes := [0, 0, 1, 0, 1, 0, 0, 0, 0, 0, 0]

theorem first_answer_at (msg : Bytes) :
    ({ msg, header := ⟨0, 1, 0, 0⟩, sec := .answers, off := 12 } : Dns.Parser).At .answers 1 :=
  ⟨rfl, rfl, rfl⟩

theorem parseDNSDID_addressRecord (fuel : Nat) :
    parseDNSDID fuel (oneAnswer ++ addressRecord) = none := by
  have hname : Dns.unpackLabels (oneAnswer ++ addressRecord) 0 12 12 [] = .ok ([], 13) := by
    rw [Dns.unpackLabels]
    rfl
  have haddress : Dns.unpackResourceHeader (oneAnswer ++ addressRecord) 12 =
      .ok (⟨[Dns.dot], 1, 0⟩, 23) := by
    simp only [Dns.unpackResourceHeader, Dns.unpackName, hname]
    rfl
  have hheader := (first_answer_at (oneAnswer ++ addressRecord)).answerHeader_ok haddress
  have hbegin : Dns.Header.unpack (oneAnswer ++ addressRecord) 0 = .ok (⟨0, 1, 0, 0⟩, 12) := rfl
  rw [parseDNSDID_eq hbegin rfl]
  cases fuel with
  | zero => rfl
  | succ fuel =>
    rw [parseAnswers, hheader]
    exact parseAnswers_endless (Dns.Parser.resourceHeader_again hheader) (by decide) fuel {}

theorem parseDNSDID_oneAnswer (fuel : Nat) : parseDNSDID fuel oneAnswer = none := by
  have hend : Dns.unpackLabels oneAnswer 0 12 12 [] = .error .baseLen := by
    rw [Dns.unpackLabels]
    rfl
  have htruncated : Dns.unpackResourceHeader oneAnswer 12 = .error (.nested "Name" .baseLen) := by
    simp only [Dns.unpackResourceHeader, Dns.unpackName, hend]
    rfl
  have hbegin : Dns.Header.unpack oneAnswer 0 = .ok (⟨0, 1, 0, 0⟩, 12) := rfl
  rw [parseDNSDID_eq hbegin rfl]
  exact parseAnswers_endless_of_error ((first_answer_at oneAnswer).answerHeader_error htruncated)
    (by decide) fuel {}

/-- No number of rounds ends the loop on an address record, nor on a message that ends before its
only record. -/
theorem address_and_truncated_endless :
    (¬ ∃ fuel, (parseDNSDID fuel (oneAnswer ++ addressRecord)).isSome = true) ∧
      ¬ ∃ fuel, (parseDNSDID fuel oneAnswer).isSome = true := by
  constructor
  · rintro ⟨fuel, hreturns⟩
    rw [parseDNSDID_addressRecord] at hreturns
    cases hreturns
  · rintro ⟨fuel, hreturns⟩
    rw [parseDNSDID_oneAnswer] at hreturns
    cases hreturns

/-- The name of a record ends in a dot. -/
theorem Reads.name_dot {parser : Dns.Parser} {answers : List Answer} (h : Reads parser answers) :
    ∀ a ∈ answers, ∃ front, a.name = front ++ "." := by
  induction h with
  | done => simp
  | txt hheader _ _ _ ih =>
    rw [List.forall_mem_cons]
    refine ⟨?_, ih⟩
    obtain ⟨front, hfront⟩ := Dns.Parser.resourceHeader_rooted hheader
    exact ⟨ofBytes front, by rw [hfront, ofBytes_append]; rfl⟩

/-- The payload is a DNS message with a last root record, from which a document can be made. -/
def HasRoot (payload : Bytes) (root : Answer) : Prop :=
  ∃ parser answers, (Dns.Parser.start payload >>= Dns.Parser.skipAllQuestions) = .ok parser ∧
    Reads parser answers ∧ Decoder.lastRoot answers = some root ∧ root.text ≠ "" ∧
    WellFormed root.text

theorem HasRoot.name_root {payload : Bytes} {root : Answer} (h : HasRoot payload root) :
    hasPrefix root.name "_did" = true ∧ ∃ front, root.name = front ++ "." := by
  obtain ⟨parser, answers, -, hreads, hlast, -, -⟩ := h
  obtain ⟨hmem, hroot⟩ := List.mem_filter.mp (List.mem_of_getLast? hlast)
  exact ⟨hroot, hreads.name_dot root hmem⟩

variable {p}

theorem unmarshalDIDDocument_ok {fuel : Nat} {payload : Bytes} {doc : Document}
    (h : unmarshalDIDDocument p fuel payload = some (.ok doc)) :
    ∃ root, HasRoot payload root ∧ doc.id = "did:dht:" ++ Decoder.rootID root.name := by
  obtain ⟨decoded, hparse, hdoc⟩ := Option.map_eq_some_iff.mp h
  obtain ⟨rec, rfl, hdoc⟩ := bind_eq_ok.mp hdoc
  rw [parseDNSDID] at hparse
  split at hparse
  · cases hparse
  · next parser hstart =>
    obtain ⟨answers, hreads, rfl⟩ := reads_of_parseAnswers hparse
    obtain ⟨hid, hne, hwf⟩ := Decoder.didDocument_ok hdoc
    obtain ⟨hfoldID, hfoldRoot⟩ := Decoder.foldl_add answers {}
    rw [hfoldRoot] at hne hwf
    rw [hfoldID] at hid
    cases hlast : Decoder.lastRoot answers with
    | none => simp [hlast] at hne
    | some root =>
      simp only [hlast, Option.map_some, Option.getD_some] at hid hne hwf
      exact ⟨root, ⟨parser, answers, hstart, hreads, hlast, hne, hwf⟩, hid⟩

theorem exists_unmarshalDIDDocument {payload : Bytes} {root : Answer} (h : HasRoot payload root) :
    ∃ fuel doc, unmarshalDIDDocument p fuel payload = some (.ok doc) ∧
      doc.id = "did:dht:" ++ Decoder.rootID root.name := by
  obtain ⟨parser, answers, hstart, hreads, hlast, hne, hwf⟩ := h
  obtain ⟨fuel, hfuel⟩ := parseAnswers_of_reads hreads {}
  obtain ⟨hfoldID, hfoldRoot⟩ := Decoder.foldl_add answers {}
  simp only [hlast, Option.map_some, Option.getD_some] at hfoldID hfoldRoot
  obtain ⟨doc, hdoc⟩ := Decoder.exists_didDocument (p := p) (hfoldRoot ▸ hne) (hfoldRoot ▸ hwf)
  refine ⟨fuel, doc, ?_, ?_⟩
  · simp only [unmarshalDIDDocument, parseDNSDID, hstart, hfuel, Option.map_some, ok_bind, hdoc]
  · rw [(Decoder.didDocument_ok hdoc).1, hfoldID]

end Meshd.Did.Dht

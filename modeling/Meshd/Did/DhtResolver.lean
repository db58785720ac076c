import Meshd.Did.DhtRecords
import Meshd.Framework.Zbase32

namespace Meshd.Did

/-- The DID itself, without parameters, path, query and fragment. -/
def DID.uri (d : DID) : String := "did:" ++ d.method ++ ":" ++ d.id

namespace Dht

open Meshd.Framework

/-! ### BEP44 messages -/

structure Message where
  k : Bytes := []
  seq : Int
  sig : Bytes
  v : Bytes
deriving DecidableEq

/-- The sequence number and the value as they are signed. -/
def bencoded (seq : Int) (v : Bytes) : Bytes :=
  ascii ("3:seqi" ++ toString seq ++ "e1:v" ++ toString v.length ++ ":") ++ v

/-- The parts of a response body; the key is not among them. -/
def Message.ofBody (data : Bytes) : Message where
  sig := data.take 64
  seq := Int.bmod (ofBigEndian ((data.drop 64).take 8)) (2 ^ 64)
  v := data.drop 72

def unmarshalMessage (data : Bytes) : Except String Message :=
  if data.length < 72 then
    .error ("pkarr response must be at least 72 bytes but got: " ++ toString data.length)
  else if data.length > 1072 then
    .error ("pkarr response is larger than 1072 bytes, got: " ++ toString data.length)
  else .ok (Message.ofBody data)

/-! ### The resolver -/

/-- What the HTTP request to the relay comes to. -/
inductive Fetched where
  | failed (err : String)
  | answered (statusCode : Nat) (status : String) (body : Except String Bytes)

/-- The relay, by the identifier it is asked for. Nothing is assumed about it. -/
abbrev Relay := String → Fetched

def fetchWithContext (relay : Relay) (didID : String) : Except String Message :=
  match relay didID with
  | .failed err => .error err
  | .answered statusCode status body =>
    if statusCode ≠ 200 then .error ("failed to get message: " ++ status)
    else body >>= unmarshalMessage

structure ResolutionError where
  code : String
deriving DecidableEq

/-- `ResolveWithContext`; `none` where the DNS decoder still runs. -/
def resolveWithContext (p : Packages) (relay : Relay) (fuel : Nat) (uri : String) :
    Option (Except ResolutionError Document) :=
  match parse uri with
  | .error _ => some (.error ⟨"invalidDid"⟩)
  | .ok did =>
    if did.method ≠ "dht" then some (.error ⟨"methodNotSupported"⟩)
    else
      match Zbase32.decodeString did.id with
      | none => some (.error ⟨"invalidPublicKey"⟩)
      | some identifier =>
        if identifier = [] then some (.error ⟨"invalidPublicKey"⟩)
        else
          match fetchWithContext relay did.id with
          | .error _ => some (.error ⟨"notFound"⟩)
          | .ok bep44Message =>
            (unmarshalDIDDocument p fuel bep44Message.v).map (·.mapError fun _ => ⟨"invalidDid"⟩)

/-- A did:dht URI whose identifier is z-base-32. -/
structure Requests (uri : String) (d : DID) : Prop where
  parsed : parse uri = .ok d
  method : d.method = "dht"
  encoded : ∃ identifier, Zbase32.decodeString d.id = some identifier ∧ identifier ≠ []

/-- The relay has this body for the identifier, and it has the size of a message. -/
def Answers (relay : Relay) (id : String) (body : Bytes) : Prop :=
  (∃ status, relay id = .answered 200 status (.ok body)) ∧ 72 ≤ body.length ∧ body.length ≤ 1072

variable {p : Packages} {relay : Relay} {uri : String} {d : DID}

theorem unmarshalMessage_ok_iff {data : Bytes} {msg : Message} :
    unmarshalMessage data = .ok msg ↔
      (72 ≤ data.length ∧ data.length ≤ 1072) ∧ msg = .ofBody data := by
  rw [unmarshalMessage, ite_error_eq_ok, ite_error_eq_ok, Except.ok.injEq, not_lt, not_lt, and_assoc]
  exact Iff.and Iff.rfl (Iff.and Iff.rfl eq_comm)

theorem fetchWithContext_ok_iff {id : String} {msg : Message} :
    fetchWithContext relay id = .ok msg ↔ ∃ body, Answers relay id body ∧ msg = .ofBody body := by
  rw [fetchWithContext]
  constructor
  · intro h
    split at h
    · cases h
    · next statusCode status body hrelay =>
      rw [ite_error_eq_ok] at h
      obtain ⟨hcode, h⟩ := h
      obtain ⟨bytes, rfl, h⟩ := bind_eq_ok.mp h
      obtain ⟨hsize, hmsg⟩ := unmarshalMessage_ok_iff.mp h
      rw [not_ne_iff] at hcode
      subst hcode
      exact ⟨bytes, ⟨⟨status, hrelay⟩, hsize⟩, hmsg⟩
  · intro h
    obtain ⟨body, ⟨⟨status, hrelay⟩, hsize⟩, hmsg⟩ := h
    simp only [hrelay, ne_eq, not_true_eq_false, if_false, ok_bind]
    exact unmarshalMessage_ok_iff.mpr ⟨hsize, hmsg⟩

/-- A document is returned for a request that the relay answers with a document, whose it may be. -/
theorem resolveWithContext_ok_iff {fuel : Nat} {doc : Document} :
    resolveWithContext p relay fuel uri = some (.ok doc) ↔
      ∃ d body, Requests uri d ∧ Answers relay d.id body ∧
        unmarshalDIDDocument p fuel (body.drop 72) = some (.ok doc) := by
  rw [resolveWithContext]
  constructor
  · intro h
    split at h
    · cases h
    · next d hd =>
      split at h
      · cases h
      · next hmethod =>
        split at h
        · cases h
        · next identifier hid =>
          split at h
          · cases h
          · next hne =>
            split at h
            · cases h
            · next msg hfetch =>
              obtain ⟨body, hanswers, rfl⟩ := fetchWithContext_ok_iff.mp hfetch
              obtain ⟨result, hresult, hdoc⟩ := Option.map_eq_some_iff.mp h
              rw [mapError_eq_ok] at hdoc
              subst hdoc
              exact ⟨d, body, ⟨hd, not_ne_iff.mp hmethod, identifier, hid, hne⟩, hanswers, hresult⟩
  · intro h
    obtain ⟨d, body, ⟨hd, hmethod, identifier, hid, hne⟩, hanswers, hdoc⟩ := h
    have hfetch := fetchWithContext_ok_iff.mpr ⟨body, hanswers, rfl⟩
    have hpayload : unmarshalDIDDocument p fuel (Message.ofBody body).v = some (.ok doc) := hdoc
    simp only [hd, hmethod, ne_eq, not_true_eq_false, if_false, hid, hne, hfetch, hpayload,
      Option.map_some, mapError_ok]

/-! ### Authenticity -/

/-- A check of Ed25519 signatures: a key, the signed bytes and the signature. -/
abbrev Verifier := Buffer 32 → Bytes → Bytes → Bool

/-- The message is signed with the identity key, whose z-base-32 text the identifier is. -/
def Message.SignedBy (verify : Verifier) (id : String) (msg : Message) : Prop :=
  ∃ key : Buffer 32, Zbase32.decodeString id = some key.val ∧
    verify key (bencoded msg.seq msg.v) msg.sig = true

/-- The document is the requested DID's, made from a payload that is signed with its key. -/
def Authentic (p : Packages) (relay : Relay) (verify : Verifier) (uri : String) (doc : Document) :
    Prop :=
  ∃ d msg fuel, parse uri = .ok d ∧ d.method = "dht" ∧ fetchWithContext relay d.id = .ok msg ∧
    unmarshalDIDDocument p fuel msg.v = some (.ok doc) ∧ doc.id = d.uri ∧ msg.SignedBy verify d.id

/-- The body is signed with the identity key and its root record is that of the identifier. -/
def Trustworthy (verify : Verifier) (id : String) (body : Bytes) (root : Answer) : Prop :=
  (Message.ofBody body).SignedBy verify id ∧ root.name = "_did." ++ id ++ "."

/-- The resolver reads the identifier of a root record with the requested name. -/
theorem rootID_eq_iff_of_requests (hd : Requests uri d) {payload : Bytes} {root : Answer}
    (hroot : HasRoot payload root) :
    Decoder.rootID root.name = d.id ↔ root.name = "_did." ++ d.id ++ "." := by
  obtain ⟨identifier, hid, hne⟩ := hd.encoded
  have hempty : d.id ≠ "" := by
    intro h
    rw [h] at hid
    cases hid
    exact hne rfl
  have hunderscore : '_' ∉ d.id.toList := by
    intro h
    have hdigit := Zbase32.mem_alphabet_of_decodeString hid '_' h
    revert hdigit
    decide
  obtain ⟨hstart, hdot⟩ := hroot.name_root
  exact Decoder.rootID_eq_iff hstart hdot hempty hunderscore

theorem resolveWithContext_authentic_iff (p : Packages) (relay : Relay) (verify : Verifier)
    (uri : String) :
    (∀ fuel doc, resolveWithContext p relay fuel uri = some (.ok doc) →
      Authentic p relay verify uri doc) ↔
    ∀ d body root, Requests uri d → Answers relay d.id body → HasRoot (body.drop 72) root →
      Trustworthy verify d.id body root := by
  constructor
  · intro h d body root hd hanswers hroot
    obtain ⟨fuel, doc, hdoc, hid⟩ := exists_unmarshalDIDDocument (p := p) hroot
    have hresolve := resolveWithContext_ok_iff.mpr ⟨d, body, hd, hanswers, hdoc⟩
    obtain ⟨d', msg, _, hd', -, hmsg, -, hdocID, hsigned⟩ := h fuel doc hresolve
    cases hd.parsed.symm.trans hd'
    cases (fetchWithContext_ok_iff.mpr ⟨body, hanswers, rfl⟩).symm.trans hmsg
    refine ⟨hsigned, (rootID_eq_iff_of_requests hd hroot).mp ?_⟩
    rw [hid, DID.uri, hd.method] at hdocID
    exact (String.append_right_inj "did:dht:").mp hdocID
  · intro h fuel doc hresolve
    obtain ⟨d, body, hd, hanswers, hdoc⟩ := resolveWithContext_ok_iff.mp hresolve
    obtain ⟨root, hroot, hid⟩ := unmarshalDIDDocument_ok hdoc
    obtain ⟨hsigned, hname⟩ := h d body root hd hanswers hroot
    refine ⟨d, .ofBody body, fuel, hd.parsed, hd.method,
      fetchWithContext_ok_iff.mpr ⟨body, hanswers, rfl⟩, hdoc, ?_, hsigned⟩
    rw [hid, (rootID_eq_iff_of_requests hd hroot).mpr hname, DID.uri, hd.method]
    rfl

/-- Any relay that has this body for every identifier. -/
def relaying (body : Bytes) : Relay := fun _ => .answered 200 "200 OK" (.ok body)

/-! ### A message of another identity -/

/-- A body without a signature, whose payload has one TXT record, `_did.y.` with the text `v=1`. -/
def forged : Bytes :=
  List.replicate 72 0 ++ [0, 0, 0x84, 0, 0, 0, 0, 1, 0, 0, 0, 0] ++
    (4 :: ascii "_did" ++ 1 :: ascii "y" ++ [0]) ++ [0, 16, 0, 1, 0, 0, 28, 32, 0, 4] ++
    3 :: ascii "v=1"

/-- Packages that are not asked for anything here. -/
def packages : Packages where
  parsePubKey _ := .error "invalid length"
  parseRequestURI _ := false
  recordOrder := { visit := fun m => m.entries.map fun e => (e.1, e.2), visit_perm := fun _ => .refl _ }
  propertyOrder := { visit := fun m => m.entries.map fun e => (e.1, e.2),
                     visit_perm := fun _ => .refl _ }

def requested : String := "did:dht:i9xkp8ddcbcg8jwq54ox699wuzxyifsqx4jru45zodqu453ksz6y"

theorem forged_resolves : resolveWithContext packages (relaying forged) 2 requested =
    some (.ok { id := "did:dht:y" }) := by
  decide +kernel

/-- The document of another identity is returned, however signatures are checked elsewhere. -/
theorem forged_not_authentic : ¬ ∃ verify, ∀ fuel doc,
    resolveWithContext packages (relaying forged) fuel requested = some (.ok doc) →
      Authentic packages (relaying forged) verify requested doc := by
  intro h
  obtain ⟨verify, h⟩ := h
  obtain ⟨d, _, _, hd, hmethod, -, -, hid, -⟩ := h 2 _ forged_resolves
  have hparse : parse requested =
      .ok { method := "dht", id := String.ofList (requested.toList.drop 8) } := by
    decide +kernel
  cases hparse.symm.trans hd
  revert hid
  decide +kernel

end Dht

end Meshd.Did

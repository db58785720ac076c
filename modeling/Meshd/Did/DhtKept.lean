import Meshd.Did.DhtRoundTrip

namespace Meshd.Did.Dht

open Meshd.Framework Strings

variable {p : Packages} {d d' : Document} {order : GoMap.Order (List String)}
  {m m' : VerificationMethod}

/-! ### Documents with the same content -/

/-- What a method says: its identifier, its controller, which is the DID if there is none, and its
public key. -/
def VerificationMethod.view (p : Packages) (did : String) (m : VerificationMethod) :
    String × String × Except String (String × Bytes) :=
  (m.id, if m.controller = "" then did else m.controller, publicKey p m.publicKeyJwk)

/-- The documents have the same methods, each under the same purposes, and the same services. -/
structure Document.Same (p : Packages) (d d' : Document) : Prop where
  id : d'.id = d.id
  methods : ∀ view, (∃ m' ∈ d'.verificationMethod, m'.view p d'.id = view) ↔
    ∃ m ∈ d.verificationMethod, m.view p d.id = view
  purposes : ∀ purpose id, id ∈ d'.purpose purpose ↔ id ∈ d.purpose purpose
  services : ∀ s, s ∈ d'.service ↔ s ∈ d.service

/-- The decoder returns a document with the content of `d`. -/
def Recovers (p : Packages) (payload : Bytes) (d : Document) : Prop :=
  ∃ fuel d', unmarshalDIDDocument p fuel payload = some (.ok d') ∧ d.Same p d'

/-- What comes back through the records: no purpose has two methods, each method is the whole value of
a property of the root record, its key is full and its fragment has no `#`, and every endpoint of a
service is valid. -/
structure Document.Kept (p : Packages) (d : Document) : Prop where
  single : ∀ purpose, (d.purpose purpose).length ≤ 1
  reached : ∀ m ∈ d.verificationMethod, d.Reached m
  keys : ∀ m ∈ d.verificationMethod, m.publicKeyJwk.Full
  fragments : ∀ m ∈ d.verificationMethod, ∀ fragment, m.id = d.id ++ "#" ++ fragment →
    '#' ∉ fragment.toList
  endpoints : ∀ s ∈ d.service, ∀ e ∈ s.serviceEndpoint, p.parseRequestURI e = true

/-! ### Methods -/

theorem append_hash_inj {did a b : String} (h : did ++ "#" ++ a = did ++ "#" ++ b) : a = b := by
  have hchars := congrArg String.toList h
  rw [String.toList_append, String.toList_append (s := did ++ "#")] at hchars
  exact String.toList_inj.mp (List.append_cancel_left hchars)

theorem Document.Writable.eq_of_id (hd : d.Writable p) (hm : m ∈ d.verificationMethod)
    (hm' : m' ∈ d.verificationMethod) (h : m.id = m'.id) : m = m' :=
  List.inj_on_of_nodup_map hd.distinct hm hm' h

theorem Document.Writable.id_ne_empty (hd : d.Writable p) : d.id ≠ "" := by
  obtain ⟨x, hx⟩ := hd.did
  intro hempty
  have hlength := congrArg String.length (hx.symm.trans hempty)
  simp at hlength

/-- What the decoder reads in the record of a method. -/
theorem view_of_unmarshal (hd : d.Writable p) (hm : m ∈ d.verificationMethod)
    (hmarshal : marshalVerificationMethod p m = .ok (methodData p m))
    (h : unmarshalVerificationMethod p (methodData p m) d.id = .ok m') :
    m'.id = d.id ++ "#" ++ m.fragment ∧ (m'.view p d.id).2.1 = (m.view p d.id).2.1 ∧
      (publicKey p m'.publicKeyJwk = publicKey p m.publicKeyJwk →
        p.parsePubKey = Secp256k1.parsePubKey → m.publicKeyJwk.Full) := by
  obtain ⟨alg, keyBytes, t, hkey, -, -⟩ := marshalVerificationMethod_ok hmarshal
  obtain ⟨hid, hcontroller⟩ := hd.plain_method hm
  obtain ⟨hne, j, hj, rfl⟩ :=
    (unmarshalVerificationMethod_marshal hid hcontroller hmarshal hkey).mp h
  refine ⟨rfl, ?_, fun hsame hsecp => ?_⟩
  · simp only [VerificationMethod.view]
    by_cases hempty : m.controller = ""
    · simp [hempty, hd.id_ne_empty]
    · simp [hempty]
  · exact (key_kept_iff hsecp hkey).mp ⟨hne, j, hj, hsame.trans hkey⟩

/-- A method with a full key and a fragment without `#` comes back. -/
theorem exists_unmarshal (hsecp : p.parsePubKey = Secp256k1.parsePubKey) (hd : d.Writable p)
    (hm : m ∈ d.verificationMethod) (hmarshal : marshalVerificationMethod p m = .ok (methodData p m))
    (hkept : d.Kept p) :
    ∃ m', unmarshalVerificationMethod p (methodData p m) d.id = .ok m' ∧
      m'.view p d.id = m.view p d.id := by
  obtain ⟨alg, keyBytes, t, hkey, -, -⟩ := marshalVerificationMethod_ok hmarshal
  obtain ⟨hne, j, hj, hpublic⟩ := (key_kept_iff hsecp hkey).mpr (hkept.keys m hm)
  obtain ⟨hid, hcontroller⟩ := hd.plain_method hm
  have hread : unmarshalVerificationMethod p (methodData p m) d.id = .ok _ :=
    (unmarshalVerificationMethod_marshal hid hcontroller hmarshal hkey).mpr ⟨hne, j, hj, rfl⟩
  obtain ⟨hreadID, hreadController, -⟩ := view_of_unmarshal hd hm hmarshal hread
  obtain ⟨fragment, -, hfragment⟩ := hd.methods m hm
  have hsameID : d.id ++ "#" ++ m.fragment = m.id := by
    rw [fragment_eq hfragment (hkept.fragments m hm fragment hfragment), hfragment]
  refine ⟨_, hread, Prod.ext (hreadID.trans hsameID) (Prod.ext hreadController ?_)⟩
  exact hpublic.trans hkey.symm

section Recovered

variable (hd : d.Writable p)
  (hmarshal : ∀ m ∈ d.verificationMethod, marshalVerificationMethod p m = .ok (methodData p m))
  (hgathered : Gathered p (relationships p order d) d.id
    (d.methodRecords p ++ d.serviceRecords) { id := d.id } d')

include hd hgathered in
/-- A purpose with several methods comes back with none. -/
theorem single_of_same (hsame : d.Same p d') (purpose : Purpose) :
    (d.purpose purpose).length ≤ 1 := by
  cases hids : d.purpose purpose with
  | nil => simp
  | cons id rest =>
    have hid : id ∈ d'.purpose purpose := (hsame.purposes purpose id).mpr (by simp [hids])
    obtain ⟨m, -, honly, -⟩ := (mem_decoded_purpose hd hgathered).mp hid
    rw [← hids, honly]
    rfl

include hd hmarshal hgathered in
/-- Each method of the document is read from a record, under its own identifier. -/
theorem read_of_same (hsame : d.Same p d') (hm : m ∈ d.verificationMethod) :
    ∃ source ∈ d.verificationMethod, d.Reached source ∧ m.id = d.id ++ "#" ++ source.fragment ∧
      ∃ m', unmarshalVerificationMethod p (methodData p source) d.id = .ok m' ∧
        m'.view p d.id = m.view p d.id := by
  obtain ⟨m', hm', hview⟩ := (hsame.methods (m.view p d.id)).mpr ⟨m, hm, rfl⟩
  rw [hsame.id] at hview
  obtain ⟨source, hsource, hreached, hread⟩ := (mem_decoded_methods hd hgathered).mp hm'
  obtain ⟨hid, -, -⟩ := view_of_unmarshal hd hsource (hmarshal source hsource) hread
  have hsameID : m'.id = m.id := congrArg Prod.fst hview
  exact ⟨source, hsource, hreached, hsameID ▸ hid, m', hread, hview⟩

include hd hmarshal hgathered in
theorem fragments_of_same (hsame : d.Same p d') (hm : m ∈ d.verificationMethod) {fragment : String}
    (hid : m.id = d.id ++ "#" ++ fragment) : '#' ∉ fragment.toList := by
  obtain ⟨source, -, -, hsource, -⟩ := read_of_same hd hmarshal hgathered hsame hm
  obtain rfl := append_hash_inj (hid.symm.trans hsource)
  exact fun hmem => (mem_fragment hmem).2 rfl

include hd hmarshal hgathered in
theorem kept_of_same (hsecp : p.parsePubKey = Secp256k1.parsePubKey) (hsame : d.Same p d') :
    d.Kept p := by
  have hmethod : ∀ m ∈ d.verificationMethod, d.Reached m ∧ m.publicKeyJwk.Full := by
    intro m hm
    obtain ⟨source, hsource, hreached, hid, m', hread, hview⟩ :=
      read_of_same hd hmarshal hgathered hsame hm
    -- no fragment has a `#`, so the record is the one of the method itself
    obtain ⟨fragment, -, hfragment⟩ := hd.methods source hsource
    have hfree := fragments_of_same hd hmarshal hgathered hsame hsource hfragment
    have hsameID : m.id = source.id := by rw [hid, fragment_eq hfragment hfree, hfragment]
    obtain rfl := hd.eq_of_id hm hsource hsameID
    obtain ⟨-, -, hfull⟩ := view_of_unmarshal hd hm (hmarshal m hm) hread
    exact ⟨hreached, hfull (congrArg (·.2.2) hview) hsecp⟩
  refine ⟨single_of_same hd hgathered hsame, fun m hm => (hmethod m hm).1,
    fun m hm => (hmethod m hm).2, fun m hm _ => fragments_of_same hd hmarshal hgathered hsame hm,
    fun s hs => ?_⟩
  exact ((mem_decoded_services hd hgathered).mp ((hsame.services s).mpr hs)).2

include hd hmarshal hgathered in
theorem same_of_kept (hsecp : p.parsePubKey = Secp256k1.parsePubKey) (hid : d'.id = d.id)
    (hkept : d.Kept p) : d.Same p d' := by
  have hread {m m' : VerificationMethod} (hm : m ∈ d.verificationMethod)
      (h : unmarshalVerificationMethod p (methodData p m) d.id = .ok m') :
      m'.view p d.id = m.view p d.id := by
    obtain ⟨m'', hread, hview⟩ := exists_unmarshal hsecp hd hm (hmarshal m hm) hkept
    cases h.symm.trans hread
    exact hview
  refine ⟨hid, fun view => ?_, fun purpose id => ?_, fun s => ?_⟩
  · rw [hid]
    constructor
    · rintro ⟨m', hm', rfl⟩
      obtain ⟨m, hm, -, h⟩ := (mem_decoded_methods hd hgathered).mp hm'
      exact ⟨m, hm, (hread hm h).symm⟩
    · rintro ⟨m, hm, rfl⟩
      obtain ⟨m', h, hview⟩ := exists_unmarshal hsecp hd hm (hmarshal m hm) hkept
      exact ⟨m', (mem_decoded_methods hd hgathered).mpr ⟨m, hm, hkept.reached m hm, h⟩, hview⟩
  · rw [mem_decoded_purpose hd hgathered]
    constructor
    · rintro ⟨m, hm, honly, m', h, rfl⟩
      have hsameID : m'.id = m.id := congrArg Prod.fst (hread hm h)
      rw [honly, hsameID]
      exact List.mem_singleton_self _
    · intro hmem
      obtain ⟨m, hm, rfl⟩ := List.mem_map.mp ((hd.listed purpose).2 id hmem)
      have honly : d.purpose purpose = [m.id] := by
        have hsingle := hkept.single purpose
        have hpos := List.length_pos_of_mem hmem
        obtain ⟨only, honly⟩ := List.length_eq_one_iff.mp (by omega : (d.purpose purpose).length = 1)
        rw [honly] at hmem ⊢
        rw [List.mem_singleton.mp hmem]
      obtain ⟨m', h, hview⟩ := exists_unmarshal hsecp hd hm (hmarshal m hm) hkept
      exact ⟨m, hm, honly, m', h, (congrArg Prod.fst hview).symm⟩
  · rw [mem_decoded_services hd hgathered]
    exact ⟨And.left, fun hs => ⟨hs, hkept.endpoints s hs⟩⟩

end Recovered

/-- A packed document is read back, with its methods, their purposes and its services, exactly where it
is `Kept`. The values of a property are joined without a separator, so that the entries of a purpose
with two methods are the entry of no method. -/
theorem document_recovered_iff {payload : Bytes} (hsecp : p.parsePubKey = Secp256k1.parsePubKey)
    (hd : d.Writable p) (h : marshalDIDDocument p order d = .ok payload) :
    Recovers p payload d ↔ d.Kept p := by
  obtain ⟨decoded, hreturns, hid, hgathered⟩ := unmarshalDIDDocument_marshal hd h
  obtain ⟨-, hmarshal⟩ := marshalDIDDocument_ok h hd.distinct hd.services
  constructor
  · rintro ⟨fuel, d', hread, hsame⟩
    rw [hreturns fuel] at hread
    split at hread
    · cases hread
    · cases hread
      exact kept_of_same hd hmarshal hgathered hsecp hsame
  · intro hkept
    refine ⟨(d.records p order).length + 1, decoded, ?_,
      same_of_kept hd hmarshal hgathered hsecp hid hkept⟩
    rw [hreturns, if_neg (by omega)]

/-! ### Two documents -/

/-- The entries as the map has them. -/
def entryOrder {β : Type} : GoMap.Order β := ⟨GoMap.pairs, fun _ => List.Perm.refl _⟩

def httpsPackages : Packages where
  parsePubKey := Secp256k1.parsePubKey
  parseRequestURI uri := hasPrefix uri "https://"
  recordOrder := entryOrder
  propertyOrder := entryOrder

def ed25519Method (fragment : String) (byte : UInt8) : VerificationMethod where
  id := "did:dht:a#" ++ fragment
  type := "JsonWebKey"
  controller := ""
  publicKeyJwk :=
    { kty := "OKP", crv := "Ed25519", x := Base64.rawURLEncode (List.replicate 32 byte) }

/-- A document with one method, for two purposes, and a service. -/
def oneMethod : Document where
  id := "did:dht:a"
  verificationMethod := [ed25519Method "0" 1]
  authentication := ["did:dht:a#0"]
  keyAgreement := ["did:dht:a#0"]
  service := [{ id := "dwn", type := "DecentralizedWebNode", serviceEndpoint := ["https://b"] }]

/-- A document with two methods, both for authentication. -/
def twoMethods : Document where
  id := "did:dht:a"
  verificationMethod := [ed25519Method "0" 1, ed25519Method "1" 2]
  authentication := ["did:dht:a#0", "did:dht:a#1"]

theorem writable_oneMethod : oneMethod.Writable httpsPackages where
  did := ⟨"a", rfl⟩
  methods m hm := by
    obtain rfl := List.mem_singleton.mp hm
    exact ⟨"0", by decide, rfl⟩
  distinct := by decide
  listed purpose := by cases purpose <;> decide
  services := by decide
  endpoints s hs := by
    obtain rfl := List.mem_singleton.mp hs
    exact ⟨"https://b", List.mem_singleton_self _, rfl⟩
  plain := by decide +kernel

theorem kept_oneMethod : oneMethod.Kept httpsPackages where
  single purpose := by cases purpose <;> decide
  reached m hm := .inl rfl
  keys m hm := by
    obtain rfl := List.mem_singleton.mp hm
    exact ⟨List.replicate 32 1, Base64.rawURLDecode_rawURLEncode _, rfl⟩
  fragments m hm fragment hid := by
    obtain rfl := List.mem_singleton.mp hm
    have hsame : oneMethod.id ++ "#" ++ "0" = oneMethod.id ++ "#" ++ fragment := hid
    obtain rfl := append_hash_inj hsame
    decide
  endpoints s hs := by
    obtain rfl := List.mem_singleton.mp hs
    decide

theorem writable_twoMethods : twoMethods.Writable httpsPackages where
  did := ⟨"a", rfl⟩
  methods m hm := by
    simp only [twoMethods, List.mem_cons, List.not_mem_nil, or_false] at hm
    obtain rfl | rfl := hm
    · exact ⟨"0", by decide, rfl⟩
    · exact ⟨"1", by decide, rfl⟩
  distinct := by decide
  listed purpose := by cases purpose <;> decide
  services := by decide
  endpoints s hs := by cases hs
  plain := by decide +kernel

theorem exists_marshal {d : Document}
    (h : (marshalDIDDocument httpsPackages entryOrder d).isOk = true) :
    ∃ payload, marshalDIDDocument httpsPackages entryOrder d = .ok payload := by
  cases hpayload : marshalDIDDocument httpsPackages entryOrder d with
  | error e =>
    rw [hpayload] at h
    cases h
  | ok payload => exact ⟨payload, rfl⟩

/-- The document with one method is written and comes back. -/
theorem oneMethod_recovered : ∃ payload,
    marshalDIDDocument httpsPackages entryOrder oneMethod = .ok payload ∧
      Recovers httpsPackages payload oneMethod := by
  obtain ⟨payload, h⟩ := exists_marshal (d := oneMethod) (by decide +kernel)
  exact ⟨payload, h, (document_recovered_iff rfl writable_oneMethod h).mpr kept_oneMethod⟩

/-- The document with two methods is written and does not come back: its root record says
`auth=k0,k1`, which is read as the purpose of `k0k1`. -/
theorem twoMethods_lost : twoMethods.Writable httpsPackages ∧ ∃ payload,
    marshalDIDDocument httpsPackages entryOrder twoMethods = .ok payload ∧
      ¬ Recovers httpsPackages payload twoMethods := by
  obtain ⟨payload, h⟩ := exists_marshal (d := twoMethods) (by decide +kernel)
  obtain ⟨decoded, hreturns, -, hgathered⟩ := unmarshalDIDDocument_marshal writable_twoMethods h
  refine ⟨writable_twoMethods, payload, h, ?_⟩
  rintro ⟨fuel, d', hread, hsame⟩
  rw [hreturns fuel] at hread
  split at hread
  · cases hread
  · cases hread
    exact absurd (single_of_same writable_twoMethods hgathered hsame .authentication) (by decide)

end Meshd.Did.Dht

import Meshd.Control.AudienceSeals
import Meshd.Dwn.Crypto.Delivery
import Meshd.Framework.Lines
import Mathlib.Data.Prod.Lex

namespace Meshd.Control.Sealed

open Meshd.Framework Meshd.Dwn.Crypto

/-! Which of the records that a server returns is used, and which of them stand in its way. -/

/-! ### Delivered keys -/

/-- `json.Unmarshal` into the data and the encryption of an entry, under its `recordsWrite` or at its
top, and into the payload of a delivery. -/
structure DeliveryReader where
  wrapped : Bytes → Option (String × Option Encryption)
  flat : Bytes → Option (String × Option Encryption)
  payload : Encoding DeliveryPayload

def entryEncryptionAndData (reader : DeliveryReader) (entry : Bytes) :
    Option (Option Encryption × Bytes) := do
  let (encodedData, encryption) ←
    match reader.wrapped entry with
    | some inner => if inner.1 ≠ "" ∨ inner.2.isSome then some inner else reader.flat entry
    | none => reader.flat entry
  if encodedData = "" then none
  else
    let data ← Base64.rawURLDecode encodedData
    return (encryption, data)

section Delivery
variable (c : Primitives) (reader : DeliveryReader) (root : Bytes) (info : RoleAudienceInfo)

/-- The payload of an entry for the role path, where it decrypts. -/
def deliveryPayload (entry : Bytes) : Option DeliveryPayload := do
  let (encryption, data) ← entryEncryptionAndData reader entry
  let enc ← encryption
  (decryptDeliveryRecord c reader.payload root info.protocol info.rolePath (some enc) data).toOption

/-- The turn of the loop for one entry. -/
def deliveredKey (entry : Bytes) : Option Bytes := do
  let payload ← deliveryPayload c reader root info entry
  if payload.keyID ≠ info.keyID then none
  else Base64.rawURLDecode payload.keyMaterial.privateKeyJwk.d

/-- `queryDeliveryAudiencePrivateKey` on the entries that its query gives. -/
def queryDeliveryAudiencePrivateKey (encManager : Option EncryptionKeyManager)
    (query : Except String (List Bytes)) : Except String Bytes :=
  match encManager with
  | none => .error "no encryption root available for delivery records"
  | some manager => do
    let entries ← query.mapError ("querying delivery records: " ++ ·)
    match entries.findSome? (deliveredKey c reader manager.rootPrivateKey info) with
    | some privateKey => .ok privateKey
    | none => .error ("no delivery record for keyId " ++ info.keyID ++ " at " ++ info.rolePath)

variable {c reader root info}

theorem deliveredKey_eq_some {entry key : Bytes} :
    deliveredKey c reader root info entry = some key ↔
      ∃ payload, deliveryPayload c reader root info entry = some payload ∧
        payload.keyID = info.keyID ∧
        Base64.rawURLDecode payload.keyMaterial.privateKeyJwk.d = some key := by
  simp only [deliveredKey, bind, Option.bind_eq_some_iff, ite_not]
  refine exists_congr fun payload => and_congr_right fun _ => ?_
  split_ifs with hid
  · simp [hid]
  · simp [hid]

/-- The key in a delivery is the one its key ID names, in whichever way its text decodes. -/
theorem thumbprint_of_deliveryPayload {entry key : Bytes} {payload : DeliveryPayload}
    (h : deliveryPayload c reader root info entry = some payload)
    (hkey : Base64.rawURLDecode payload.keyMaterial.privateKeyJwk.d = some key) :
    key.length = 32 ∧ thumbprintForPublicKey c (c.x25519Base key) = payload.keyID := by
  simp only [deliveryPayload, bind, Option.bind_eq_some_iff, toOption_eq_some] at h
  obtain ⟨⟨encryption, data⟩, -, enc, -, hpayload⟩ := h
  obtain ⟨-, -, -, -, -, -, -, hid, hverified⟩ := decryptDeliveryRecord_eq_ok.mp hpayload
  obtain ⟨key', hkey', hlen, hthumb⟩ := exists_key_of_verified hverified
  rw [base64URLDecode, hkey] at hkey'
  obtain rfl := Except.ok.inj hkey'
  exact ⟨hlen, (hid.trans hthumb).symm⟩

theorem queryDeliveryAudiencePrivateKey_eq_ok {manager : EncryptionKeyManager}
    {entries : List Bytes} {key : Bytes}
    (h : queryDeliveryAudiencePrivateKey c reader info (some manager) (.ok entries) = .ok key) :
    ∃ entry ∈ entries, deliveredKey c reader manager.rootPrivateKey info entry = some key := by
  rw [queryDeliveryAudiencePrivateKey, mapError_ok, ok_bind] at h
  split at h
  · next found hfound =>
    obtain rfl := Except.ok.inj h
    exact List.exists_of_findSome?_eq_some hfound
  · cases h

theorem exists_queryDeliveryAudiencePrivateKey {manager : EncryptionKeyManager}
    {entries : List Bytes} :
    (∃ key, queryDeliveryAudiencePrivateKey c reader info (some manager) (.ok entries) = .ok key) ↔
      ∃ entry ∈ entries, ∃ payload key,
        deliveryPayload c reader manager.rootPrivateKey info entry = some payload ∧
        payload.keyID = info.keyID ∧
        Base64.rawURLDecode payload.keyMaterial.privateKeyJwk.d = some key := by
  constructor
  · rintro ⟨key, h⟩
    obtain ⟨entry, hentry, hkey⟩ := queryDeliveryAudiencePrivateKey_eq_ok h
    obtain ⟨payload, hpayload⟩ := deliveredKey_eq_some.mp hkey
    exact ⟨entry, hentry, payload, key, hpayload⟩
  · rintro ⟨entry, hentry, payload, key, hpayload⟩
    have hsome : ∃ entry ∈ entries,
        (deliveredKey c reader manager.rootPrivateKey info entry).isSome = true :=
      ⟨entry, hentry, by rw [deliveredKey_eq_some.mpr ⟨payload, hpayload⟩]; rfl⟩
    obtain ⟨found, hfound⟩ := Option.isSome_iff_exists.mp (List.findSome?_isSome_iff.mpr hsome)
    refine ⟨found, ?_⟩
    rw [queryDeliveryAudiencePrivateKey, mapError_ok, ok_bind, hfound]

end Delivery

/-! ### The order of projection -/

/-- A record's place in the order of `projectCurrentAudience`. -/
def rank (tenant : String) (rec : StoredAudience) : Bool ×ₗ String ×ₗ String :=
  toLex (decide (rec.author ≠ tenant), toLex (rec.dateCreated, rec.recordID))

theorem before_iff_rank {tenant : String} {r r' : StoredAudience} :
    r.toRecord.before tenant r'.toRecord = true ↔ rank tenant r < rank tenant r' := by
  simp only [AudienceRecord.before, StoredAudience.toRecord, rank, Prod.Lex.toLex_lt_toLex]
  by_cases hr : r.author = tenant
  · by_cases hr' : r'.author = tenant
    · by_cases hdate : r.dateCreated = r'.dateCreated
      · simp [hr, hr', hdate]
      · simp [hr, hr', hdate]
    · simp [hr, hr']
  · by_cases hr' : r'.author = tenant
    · simp [hr, hr']
    · by_cases hdate : r.dateCreated = r'.dateCreated
      · simp [hr, hr', hdate]
      · simp [hr, hr', hdate]

/-- The relation that `projectCurrentAudience` sorts by. -/
def NotAfter (tenant : String) (r r' : StoredAudience) : Prop :=
  r'.toRecord.before tenant r.toRecord = false

instance (tenant : String) : DecidableRel (NotAfter tenant) :=
  fun r r' => inferInstanceAs (Decidable (r'.toRecord.before tenant r.toRecord = false))

theorem notAfter_iff_rank {tenant : String} {r r' : StoredAudience} :
    NotAfter tenant r r' ↔ rank tenant r ≤ rank tenant r' := by
  rw [NotAfter, ← Bool.not_eq_true, before_iff_rank, not_lt]

instance (tenant : String) : Std.Total (NotAfter tenant) where
  total r r' := by
    rw [notAfter_iff_rank, notAfter_iff_rank]
    exact le_total _ _

instance (tenant : String) : IsTrans StoredAudience (NotAfter tenant) where
  trans r s t := by
    rw [notAfter_iff_rank, notAfter_iff_rank, notAfter_iff_rank]
    exact le_trans

theorem projectCurrent_eq (records : List StoredAudience) (tenant : String) :
    projectCurrent records tenant = (records.insertionSort (NotAfter tenant)).head? := rfl

theorem projectCurrent_eq_none {records : List StoredAudience} {tenant : String} :
    projectCurrent records tenant = none ↔ records = [] := by
  rw [projectCurrent_eq, List.head?_eq_none_iff, ← List.length_eq_zero_iff,
    List.length_insertionSort, List.length_eq_zero_iff]

/-! ### The answer of a server -/

variable {c : Primitives}

/-- The key that `Current` reads off a record. -/
def StoredAudience.key (rec : StoredAudience) : Except String (Bytes × String) := do
  let pub ← (publicKeyBytesFromJWK rec.payload.publicKeyJwk).mapError
    ("parsing audience public key: " ++ ·)
  return (pub, rec.payload.keyID)

theorem StoredAudience.key_eq_ok {rec : StoredAudience} {pub : Bytes} {keyID : String} :
    rec.key = .ok (pub, keyID) ↔
      publicKeyBytesFromJWK rec.payload.publicKeyJwk = .ok pub ∧ rec.payload.keyID = keyID := by
  simp only [StoredAudience.key, bind_eq_ok, mapError_eq_ok]
  constructor
  · rintro ⟨pub', hpub, h⟩
    obtain ⟨rfl, rfl⟩ := Prod.mk.inj (Except.ok.inj h)
    exact ⟨hpub, rfl⟩
  · rintro ⟨hpub, rfl⟩
    exact ⟨pub, hpub, rfl⟩

namespace SealedAudienceSource

section Answer
variable (c) (src : SealedAudienceSource) (protocol rolePath : String)

/-- The source when the server returns some entries. -/
def answering (entries : List Bytes) : SealedAudienceSource :=
  { src with dwn := { src.dwn with query := fun _ => .ok entries } }

/-- The verified records for a tuple. -/
def tupleRecords (contextID : String) (entries : List Bytes) : List StoredAudience :=
  parseAll c src.reader
    (fun p => p.protocol = protocol ∧ p.rolePath = rolePath ∧ p.contextID = contextID) entries

/-- The verified records for a key. -/
def keyRecords (keyID : String) (entries : List Bytes) : List StoredAudience :=
  parseAll c src.reader
    (fun p => p.protocol = protocol ∧ p.rolePath = rolePath ∧ p.keyID = keyID) entries

/-- The records that `Current` may use: the one in the cache, or else those of the tuple that no
other comes before. -/
def Eligible (cache : GoMap StoredAudience) (contextID : String) (entries : List Bytes)
    (rec : StoredAudience) : Prop :=
  match cache.lookup (tupleKey protocol rolePath contextID) with
  | some cached => rec = cached
  | none => rec ∈ src.tupleRecords c protocol rolePath contextID entries ∧
      ∀ r ∈ src.tupleRecords c protocol rolePath contextID entries,
        r.toRecord.before src.tenant rec.toRecord = false

end Answer

variable {src : SealedAudienceSource} {protocol rolePath contextID keyID : String}
  {entropy : MintEntropy} {cache : GoMap StoredAudience} {entries : List Bytes} {rec : StoredAudience}

theorem currentKey_eq (entropy : MintEntropy) (cache : GoMap StoredAudience) (contextID : String) :
    src.currentKey c entropy cache protocol rolePath contextID =
      (src.current c entropy cache protocol rolePath contextID).1 >>= StoredAudience.key := rfl

theorem mem_parseAll {reader : EntryReader} {isMatch : AudiencePayload → Bool}
    (h : rec ∈ parseAll c reader isMatch entries) : isMatch rec.payload = true := by
  obtain ⟨entry, -, hentry⟩ := List.mem_filterMap.mp h
  exact (Option.filter_eq_some_iff.mp hentry).2

/-- With records for the tuple, `Current` uses the cached one or the first in the order. -/
theorem current_answering (hne : src.tupleRecords c protocol rolePath contextID entries ≠ []) :
    ((src.answering entries).current c entropy cache protocol rolePath contextID).1 = .ok rec ↔
      match cache.lookup (tupleKey protocol rolePath contextID) with
      | some cached => rec = cached
      | none =>
        projectCurrent (src.tupleRecords c protocol rolePath contextID entries) src.tenant =
          some rec := by
  simp only [current]
  cases hcached : cache.lookup (tupleKey protocol rolePath contextID) with
  | some cached => simp [eq_comm]
  | none =>
    have hquery : (src.answering entries).queryAudience c [("protocol", protocol),
        ("rolePath", rolePath), ("contextId", contextID)]
        (fun p => p.protocol = protocol ∧ p.rolePath = rolePath ∧ p.contextID = contextID) =
        .ok (src.tupleRecords c protocol rolePath contextID entries) := rfl
    have htenant : (src.answering entries).tenant = src.tenant := rfl
    dsimp only
    rw [hquery]
    dsimp only
    rw [htenant]
    cases hproject : projectCurrent (src.tupleRecords c protocol rolePath contextID entries)
        src.tenant with
    | none => exact absurd (projectCurrent_eq_none.mp hproject) hne
    | some found => simp

theorem exists_current (entropy : MintEntropy) (cache : GoMap StoredAudience)
    (hne : src.tupleRecords c protocol rolePath contextID entries ≠ []) :
    ∃ rec,
      ((src.answering entries).current c entropy cache protocol rolePath contextID).1 = .ok rec := by
  simp only [current_answering hne]
  cases cache.lookup (tupleKey protocol rolePath contextID) with
  | some cached => exact ⟨cached, rfl⟩
  | none => exact Option.ne_none_iff_exists'.mp fun hnone => hne (projectCurrent_eq_none.mp hnone)

theorem tupleRecords_perm {entries' : List Bytes} (h : entries'.Perm entries) :
    (src.tupleRecords c protocol rolePath contextID entries').Perm
      (src.tupleRecords c protocol rolePath contextID entries) :=
  h.filterMap _

theorem tupleRecords_ne_nil {entries' : List Bytes} (h : entries'.Perm entries)
    (hne : src.tupleRecords c protocol rolePath contextID entries ≠ []) :
    src.tupleRecords c protocol rolePath contextID entries' ≠ [] := by
  intro hnil
  have hperm : ([] : List StoredAudience).Perm
      (src.tupleRecords c protocol rolePath contextID entries) := hnil ▸ tupleRecords_perm h
  exact hne hperm.nil_eq.symm

/-- Over all orders of the entries, `Current` uses just the eligible records. -/
theorem eligible_iff (entropy : MintEntropy)
    (hne : src.tupleRecords c protocol rolePath contextID entries ≠ []) :
    src.Eligible c protocol rolePath cache contextID entries rec ↔
      ∃ entries' : List Bytes, entries'.Perm entries ∧
        ((src.answering entries').current c entropy cache protocol rolePath contextID).1 = .ok rec := by
  have hcurrent : ∀ entries' : List Bytes, entries'.Perm entries →
      (((src.answering entries').current c entropy cache protocol rolePath contextID).1 =
        .ok rec ↔ _) :=
    fun entries' hperm => current_answering (tupleRecords_ne_nil hperm hne)
  rw [exists_congr fun entries' => and_congr_right (hcurrent entries'), Eligible]
  cases cache.lookup (tupleKey protocol rolePath contextID) with
  | some cached => exact ⟨fun h => ⟨entries, .refl _, h⟩, fun ⟨_, _, h⟩ => h⟩
  | none => exact (exists_perm_head?_insertionSort (NotAfter src.tenant) _).symm

/-- `Current` gives one key for all orders of the entries exactly if the eligible records do. -/
theorem currentKey_iff (hne : src.tupleRecords c protocol rolePath contextID entries ≠ [])
    {result : Bytes × String} :
    (∀ entries' : List Bytes, entries'.Perm entries →
      (src.answering entries').currentKey c entropy cache protocol rolePath contextID = .ok result) ↔
    ∀ rec, src.Eligible c protocol rolePath cache contextID entries rec → rec.key = .ok result := by
  constructor
  · intro h rec hrec
    obtain ⟨entries', hperm, hcurrent⟩ := (eligible_iff entropy hne).mp hrec
    have hkey := h entries' hperm
    rwa [currentKey_eq, hcurrent, ok_bind] at hkey
  · intro h entries' hperm
    obtain ⟨rec, hcurrent⟩ := exists_current entropy cache (tupleRecords_ne_nil hperm hne)
    rw [currentKey_eq, hcurrent, ok_bind]
    exact h rec ((eligible_iff entropy hne).mpr ⟨entries', hperm, hcurrent⟩)

/-- What `Current` returns is the key of an eligible record. -/
theorem eligible_of_currentKey (hne : src.tupleRecords c protocol rolePath contextID entries ≠ [])
    {result : Bytes × String}
    (h : (src.answering entries).currentKey c entropy cache protocol rolePath contextID = .ok result) :
    ∃ rec, src.Eligible c protocol rolePath cache contextID entries rec ∧ rec.key = .ok result := by
  rw [currentKey_eq, bind_eq_ok] at h
  obtain ⟨rec, hcurrent, hkey⟩ := h
  exact ⟨rec, (eligible_iff entropy hne).mpr ⟨entries, .refl _, hcurrent⟩, hkey⟩

/-- The record for a key ID is cached under it, or the first that the server has for it. -/
theorem audienceByKeyID_eq_ok
    (h : (src.answering entries).audienceByKeyID c cache protocol rolePath keyID = .ok rec) :
    rec.payload.keyID = keyID := by
  rw [audienceByKeyID] at h
  split at h
  · next found hfound =>
    obtain rfl := Except.ok.inj h
    have hmatch := List.find?_some hfound
    simp only [decide_eq_true_eq] at hmatch
    exact hmatch.1
  · have hquery : (src.answering entries).queryAudience c [("protocol", protocol),
        ("rolePath", rolePath), ("keyId", keyID)]
        (fun p => p.protocol = protocol ∧ p.rolePath = rolePath ∧ p.keyID = keyID) =
        .ok (src.keyRecords c protocol rolePath keyID entries) := rfl
    rw [hquery, ok_bind] at h
    split at h
    · cases h
    · next found hfound =>
      obtain rfl := Except.ok.inj h
      have hmatch := mem_parseAll (List.mem_of_mem_head? hfound)
      simp only [decide_eq_true_eq] at hmatch
      exact hmatch.2.2

theorem audienceByKeyID_empty :
    (src.answering entries).audienceByKeyID c ∅ protocol rolePath keyID = .ok rec ↔
      (src.keyRecords c protocol rolePath keyID entries).head? = some rec := by
  have hquery : (src.answering entries).queryAudience c [("protocol", protocol),
      ("rolePath", rolePath), ("keyId", keyID)]
      (fun p => p.protocol = protocol ∧ p.rolePath = rolePath ∧ p.keyID = keyID) =
      .ok (src.keyRecords c protocol rolePath keyID entries) := rfl
  rw [audienceByKeyID, GoMap.values_empty, List.find?_nil]
  dsimp only
  rw [hquery, ok_bind]
  cases (src.keyRecords c protocol rolePath keyID entries).head? with
  | none => simp
  | some found => simp

theorem exists_audiencePrivateKey_iff {sealKeys : String → String → Except String Bytes}
    {sealKey : Bytes} (hkeys : src.sealKeys = some sealKeys)
    (hseal : sealKeys protocol rolePath = .ok sealKey) :
    (∃ key, (src.answering entries).audiencePrivateKeyByKeyID c ∅ protocol rolePath keyID = .ok key) ↔
      ∃ rec key, (src.keyRecords c protocol rolePath keyID entries).head? = some rec ∧
        unsealAudienceRecord c rec.payload sealKey = .ok key := by
  have hsource : (src.answering entries).sealKeys = some sealKeys := hkeys
  rw [exists_comm]
  refine exists_congr fun key => ?_
  rw [audiencePrivateKeyByKeyID, hsource]
  simp only [bind_eq_ok, mapError_eq_ok, audienceByKeyID_empty, hseal, Except.ok.injEq,
    exists_eq_left']

/-- An unsealed key has the key ID that it was asked for by. -/
theorem thumbprint_of_audiencePrivateKey {key : Bytes}
    (h : (src.answering entries).audiencePrivateKeyByKeyID c cache protocol rolePath keyID = .ok key) :
    key.length = 32 ∧ thumbprintForPublicKey c (c.x25519Base key) = keyID := by
  rw [audiencePrivateKeyByKeyID] at h
  split at h
  · cases h
  · simp only [bind_eq_ok] at h
    obtain ⟨rec, hrec, sealKey, -, hunsealed⟩ := h
    obtain rfl := audienceByKeyID_eq_ok hrec
    obtain ⟨hlen, -, hid⟩ := unsealed_key hunsealed
    exact ⟨hlen, hid.symm⟩

/-! ### The cache of the source -/

theorem verified_of_mem_parseAll {reader : EntryReader} {isMatch : AudiencePayload → Bool}
    (h : rec ∈ parseAll c reader isMatch entries) :
    verifyAudiencePayload c rec.payload = .ok () := by
  obtain ⟨entry, -, hentry⟩ := List.mem_filterMap.mp h
  have hparsed := toOption_eq_some.mp (Option.filter_eq_some_iff.mp hentry).1
  rw [parseAudienceEntry] at hparsed
  split at hparsed
  · cases hparsed
  · split at hparsed
    · cases hparsed
    · next payload _ =>
      simp only [bind_eq_ok, mapError_eq_ok] at hparsed
      obtain ⟨_, hverified, fields, -, hrec⟩ := hparsed
      obtain rfl := Except.ok.inj hrec
      exact hverified

/-- A record that verifies, for a protocol and a role path. -/
structure IsFor (c : Primitives) (protocol rolePath : String) (rec : StoredAudience) : Prop where
  protocol : rec.payload.protocol = protocol
  rolePath : rec.payload.rolePath = rolePath
  verified : verifyAudiencePayload c rec.payload = .ok ()

theorem isFor_of_mint (h : src.mint c entropy protocol rolePath contextID = .ok rec) :
    IsFor c protocol rolePath rec := by
  rw [mint, bind_eq_ok] at h
  obtain ⟨⟨payload, opts⟩, hmint, h⟩ := h
  dsimp only at h
  rw [bind_eq_ok] at h
  obtain ⟨result, -, h⟩ := h
  obtain ⟨hne, -, hprotocol, hrole, _, _, key, -, -, -, hseals⟩ := mintOptions_eq_ok hmint
  split at h
  · cases h
  · rw [ite_error_eq_ok] at h
    obtain rfl := Except.ok.inj h.2
    exact ⟨hprotocol, hrole, hseals.verified (hrole ▸ hne)⟩

/-- What `current` does: it finds the record in the cache, or puts one there, or fails. -/
theorem current_cases (c : Primitives) (src : SealedAudienceSource) (protocol rolePath : String)
    (entropy : MintEntropy) (cache : GoMap StoredAudience) (contextID : String) :
    (∃ rec, cache.lookup (tupleKey protocol rolePath contextID) = some rec ∧
      src.current c entropy cache protocol rolePath contextID = (.ok rec, cache)) ∨
    (∃ rec, cache.lookup (tupleKey protocol rolePath contextID) = none ∧
      IsFor c protocol rolePath rec ∧
      src.current c entropy cache protocol rolePath contextID =
        (.ok rec, cache.insert (tupleKey protocol rolePath contextID) rec)) ∨
    ∃ e, src.current c entropy cache protocol rolePath contextID = (.error e, cache) := by
  rw [current]
  cases hcached : cache.lookup (tupleKey protocol rolePath contextID) with
  | some rec => exact .inl ⟨rec, rfl, rfl⟩
  | none =>
    dsimp only
    cases hquery : src.queryAudience c [("protocol", protocol), ("rolePath", rolePath),
        ("contextId", contextID)]
        (fun p => p.protocol = protocol ∧ p.rolePath = rolePath ∧ p.contextID = contextID) with
    | error e => exact .inr (.inr ⟨e, rfl⟩)
    | ok records =>
      dsimp only
      rw [queryAudience, bind_eq_ok] at hquery
      obtain ⟨entries, -, hrecords⟩ := hquery
      obtain rfl := Except.ok.inj hrecords
      cases hproject : projectCurrent _ src.tenant with
      | some rec =>
        have hmem := (of_head?_insertionSort (NotAfter src.tenant) hproject).1
        have hmatch := mem_parseAll hmem
        simp only [decide_eq_true_eq] at hmatch
        exact .inr (.inl ⟨rec, rfl, ⟨hmatch.1, hmatch.2.1, verified_of_mem_parseAll hmem⟩, rfl⟩)
      | none =>
        dsimp only
        cases hmint : src.mint c entropy protocol rolePath contextID with
        | error e => exact .inr (.inr ⟨e, rfl⟩)
        | ok rec => exact .inr (.inl ⟨rec, rfl, isFor_of_mint hmint, rfl⟩)

/-- What is in the cache stays there. -/
theorem current_keeps (entropy : MintEntropy) (contextID : String) {k : String}
    (h : cache.lookup k = some rec) :
    (src.current c entropy cache protocol rolePath contextID).2.lookup k = some rec := by
  obtain ⟨rec', -, he⟩ | ⟨rec', hnone, -, he⟩ | ⟨e, he⟩ :=
    current_cases c src protocol rolePath entropy cache contextID
  · rw [he]
    exact h
  · have hk : k ≠ tupleKey protocol rolePath contextID := by
      rintro rfl
      rw [hnone] at h
      cases h
    rw [he, AList.lookup_insert_ne hk]
    exact h
  · rw [he]
    exact h

/-- Only the entry of the tuple can be new. -/
theorem current_other (c : Primitives) (src : SealedAudienceSource) (entropy : MintEntropy)
    (cache : GoMap StoredAudience) {k : String} (h : k ≠ tupleKey protocol rolePath contextID) :
    (src.current c entropy cache protocol rolePath contextID).2.lookup k = cache.lookup k := by
  obtain ⟨rec, -, he⟩ | ⟨rec, -, -, he⟩ | ⟨e, he⟩ :=
    current_cases c src protocol rolePath entropy cache contextID
  · rw [he]
  · rw [he, AList.lookup_insert_ne h]
  · rw [he]

/-- `Current` looks at no other entry of the cache. -/
theorem currentKey_congr {cache' : GoMap StoredAudience}
    (h : cache.lookup (tupleKey protocol rolePath contextID) =
      cache'.lookup (tupleKey protocol rolePath contextID)) (entropy : MintEntropy) :
    src.currentKey c entropy cache protocol rolePath contextID =
      src.currentKey c entropy cache' protocol rolePath contextID := by
  have hfirst : (src.current c entropy cache protocol rolePath contextID).1 =
      (src.current c entropy cache' protocol rolePath contextID).1 := by
    rw [current, current, h]
    cases cache'.lookup (tupleKey protocol rolePath contextID) with
    | some rec => rfl
    | none =>
      dsimp only
      split
      · rfl
      · split
        · rfl
        · split
          · rfl
          · rfl
  rw [currentKey_eq, currentKey_eq, hfirst]

theorem lookup_current (h : (src.current c entropy cache protocol rolePath contextID).1 = .ok rec) :
    (src.current c entropy cache protocol rolePath contextID).2.lookup
      (tupleKey protocol rolePath contextID) = some rec := by
  obtain ⟨rec', hcached, he⟩ | ⟨rec', -, -, he⟩ | ⟨e, he⟩ :=
    current_cases c src protocol rolePath entropy cache contextID
  · rw [he] at h ⊢
    exact Except.ok.inj h ▸ hcached
  · rw [he] at h ⊢
    rw [AList.lookup_insert, Except.ok.inj h]
  · rw [he] at h
    cases h

/-- A text without line breaks, as a URI and a role path are. -/
def OneLine (text : String) : Prop := '\n' ∉ text.toList

theorem tupleKey_injective {protocol' rolePath' contextID' : String}
    (hprotocol : OneLine protocol) (hprotocol' : OneLine protocol') (hrole : OneLine rolePath)
    (hrole' : OneLine rolePath')
    (h : tupleKey protocol rolePath contextID = tupleKey protocol' rolePath' contextID') :
    protocol = protocol' ∧ rolePath = rolePath' := by
  have hlist := congrArg String.toList h
  have hbreak : "\n".toList = ['\n'] := rfl
  simp only [tupleKey, String.toList_append, hbreak, List.append_assoc, List.singleton_append] at hlist
  obtain ⟨hp, hrest⟩ := append_cons_inj hprotocol hprotocol' hlist
  obtain ⟨hr, -⟩ := append_cons_inj hrole hrole' hrest
  exact ⟨String.toList_inj.mp hp, String.toList_inj.mp hr⟩

/-- The cache after calls for tuples in one line. -/
def Filled (c : Primitives) (cache : GoMap StoredAudience) : Prop :=
  ∀ k rec, cache.lookup k = some rec → ∃ protocol rolePath contextID,
    OneLine protocol ∧ OneLine rolePath ∧ k = tupleKey protocol rolePath contextID ∧
      IsFor c protocol rolePath rec

theorem filled_empty : Filled c ∅ := by
  intro k rec h
  simp at h

theorem Filled.current (h : Filled c cache) (hprotocol : OneLine protocol)
    (hrole : OneLine rolePath) (entropy : MintEntropy) (contextID : String) :
    Filled c (src.current c entropy cache protocol rolePath contextID).2 := by
  obtain ⟨rec', -, he⟩ | ⟨rec', -, hfor, he⟩ | ⟨e, he⟩ :=
    current_cases c src protocol rolePath entropy cache contextID
  · rw [he]
    exact h
  · rw [he]
    intro k rec hk
    by_cases hkey : k = tupleKey protocol rolePath contextID
    · rw [hkey, AList.lookup_insert] at hk
      obtain rfl := Option.some.inj hk
      exact ⟨protocol, rolePath, contextID, hprotocol, hrole, hkey, hfor⟩
    · rw [AList.lookup_insert_ne hkey] at hk
      exact h k rec hk
  · rw [he]
    exact h

theorem Filled.isFor (h : Filled c cache) (hprotocol : OneLine protocol)
    (hrole : OneLine rolePath)
    (hrec : cache.lookup (tupleKey protocol rolePath contextID) = some rec) :
    IsFor c protocol rolePath rec := by
  obtain ⟨protocol', rolePath', contextID', hprotocol', hrole', hkey, hfor⟩ := h _ _ hrec
  obtain ⟨rfl, rfl⟩ := tupleKey_injective hprotocol hprotocol' hrole hrole' hkey
  exact hfor

/-- `Current` goes on to return the key of the cached record. -/
theorem currentKey_cached (h : cache.lookup (tupleKey protocol rolePath contextID) = some rec)
    (entropy : MintEntropy) :
    src.currentKey c entropy cache protocol rolePath contextID = rec.key := by
  rw [currentKey_eq, current, h]
  rfl

/-- No two records in the cache have different keys with one thumbprint. -/
def ThumbprintsDiffer (c : Primitives) (cache : GoMap StoredAudience) : Prop :=
  ∀ r ∈ cache.values, ∀ r' ∈ cache.values,
    jwkThumbprintX25519 c r.payload.publicKeyJwk.x = jwkThumbprintX25519 c r'.payload.publicKeyJwk.x →
      r.payload.publicKeyJwk.x = r'.payload.publicKeyJwk.x

/-- The private key that is unsealed for the key of a cached record is its other half. -/
theorem privateKey_of_cached {pub priv : Bytes}
    (hrec : cache.lookup (tupleKey protocol rolePath contextID) = some rec)
    (hfor : IsFor c protocol rolePath rec) (hthumb : ThumbprintsDiffer c cache)
    (hkey : rec.key = .ok (pub, keyID))
    (hpriv : src.audiencePrivateKeyByKeyID c cache protocol rolePath keyID = .ok priv) :
    priv.length = 32 ∧ c.x25519Base priv = pub ∧ keyID = thumbprintForPublicKey c pub := by
  obtain ⟨hpub, rfl⟩ := StoredAudience.key_eq_ok.mp hkey
  have hmem : rec ∈ cache.values := GoMap.mem_values.mpr ⟨_, hrec⟩
  obtain ⟨found, hfound⟩ : ∃ found, cache.values.find? (fun r => r.payload.keyID = rec.payload.keyID ∧
      r.payload.protocol = protocol ∧ r.payload.rolePath = rolePath) = some found := by
    rw [← Option.isSome_iff_exists, List.find?_isSome]
    exact ⟨rec, hmem, by simp [hfor.protocol, hfor.rolePath]⟩
  have hid : found.payload.keyID = rec.payload.keyID := by
    have hmatch := List.find?_some hfound
    simp only [decide_eq_true_eq] at hmatch
    exact hmatch.1
  obtain ⟨sealKey, hopens⟩ : ∃ sealKey, unsealAudienceRecord c found.payload sealKey = .ok priv := by
    rw [audiencePrivateKeyByKeyID] at hpriv
    split at hpriv
    · cases hpriv
    · simp only [bind_eq_ok, audienceByKeyID, hfound, Except.ok.injEq, exists_eq_left'] at hpriv
      obtain ⟨sealKey, -, hopens⟩ := hpriv
      exact ⟨sealKey, hopens⟩
  obtain ⟨hlen, hjwk, hfoundID⟩ := unsealed_key hopens
  obtain ⟨-, -, -, -, hthumbprint, -⟩ := verifyAudiencePayload_eq_ok.mp hfor.verified
  have hx : rec.payload.publicKeyJwk.x = Base64.rawURLEncode (c.x25519Base priv) := by
    have hsame := hthumb rec hmem found (List.mem_of_find?_eq_some hfound) (by
      rw [hthumbprint, ← hid, hfoundID, hjwk]
      rfl)
    rw [hsame, hjwk]
    rfl
  have hbase : c.x25519Base priv = pub := by
    rw [publicKeyBytesFromJWK, ite_error_eq_ok, hx, Base64.rawURLDecode_rawURLEncode] at hpub
    dsimp only at hpub
    exact Except.ok.inj (ite_error_eq_ok.mp hpub.2).2
  exact ⟨hlen, hbase, by rw [← hid, hfoundID, hbase]⟩

end SealedAudienceSource

/-- A record that no other comes before has to hold a key that decodes, and where several are level
they have to hold the same one; the first record for a key ID has to open; and one delivery of the
key has to hold it without padding. Then the usable records are used, and only then. Every private
key that is returned has the key ID that it was asked for by. -/
theorem usable_records (c : Primitives) (src : SealedAudienceSource) (protocol rolePath : String) :
    (∀ (entropy : MintEntropy) (cache : GoMap StoredAudience) (contextID : String)
      (entries : List Bytes),
      (∃ rec ∈ src.tupleRecords c protocol rolePath contextID entries, ∃ pub,
        publicKeyBytesFromJWK rec.payload.publicKeyJwk = .ok pub) →
      ((∃ result, ∀ entries' : List Bytes, entries'.Perm entries →
          (src.answering entries').currentKey c entropy cache protocol rolePath contextID =
            .ok result) ↔
        ∃ result, ∀ rec, src.Eligible c protocol rolePath cache contextID entries rec →
          rec.key = .ok result) ∧
      ∀ pub keyID, (src.answering entries).currentKey c entropy cache protocol rolePath contextID =
          .ok (pub, keyID) →
        ∃ rec, src.Eligible c protocol rolePath cache contextID entries rec ∧
          publicKeyBytesFromJWK rec.payload.publicKeyJwk = .ok pub ∧ rec.payload.keyID = keyID) ∧
    (∀ (sealKeys : String → String → Except String Bytes) (sealKey : Bytes) (keyID : String)
      (entries : List Bytes),
      src.sealKeys = some sealKeys → sealKeys protocol rolePath = .ok sealKey →
      (∃ rec ∈ src.keyRecords c protocol rolePath keyID entries, ∃ key,
        unsealAudienceRecord c rec.payload sealKey = .ok key) →
      ((∃ key, (src.answering entries).audiencePrivateKeyByKeyID c ∅ protocol rolePath keyID =
          .ok key) ↔
        ∃ rec key, (src.keyRecords c protocol rolePath keyID entries).head? = some rec ∧
          unsealAudienceRecord c rec.payload sealKey = .ok key)) ∧
    (∀ (reader : DeliveryReader) (manager : EncryptionKeyManager) (keyID : String)
      (entries : List Bytes),
      (∃ entry ∈ entries, ∃ payload,
        deliveryPayload c reader manager.rootPrivateKey ⟨protocol, rolePath, keyID⟩ entry =
          some payload ∧ payload.keyID = keyID) →
      ((∃ key, queryDeliveryAudiencePrivateKey c reader ⟨protocol, rolePath, keyID⟩ (some manager)
          (.ok entries) = .ok key) ↔
        ∃ entry ∈ entries, ∃ payload key,
          deliveryPayload c reader manager.rootPrivateKey ⟨protocol, rolePath, keyID⟩ entry =
            some payload ∧ payload.keyID = keyID ∧
          Base64.rawURLDecode payload.keyMaterial.privateKeyJwk.d = some key)) ∧
    (∀ (cache : GoMap StoredAudience) (keyID : String) (entries : List Bytes) (key : Bytes),
      (src.answering entries).audiencePrivateKeyByKeyID c cache protocol rolePath keyID = .ok key →
      key.length = 32 ∧ thumbprintForPublicKey c (c.x25519Base key) = keyID) ∧
    (∀ (reader : DeliveryReader) (manager : EncryptionKeyManager) (keyID : String)
      (entries : List Bytes) (key : Bytes),
      queryDeliveryAudiencePrivateKey c reader ⟨protocol, rolePath, keyID⟩ (some manager)
        (.ok entries) = .ok key →
      key.length = 32 ∧ thumbprintForPublicKey c (c.x25519Base key) = keyID) := by
  refine ⟨?_, ?_, fun reader manager keyID entries _ => exists_queryDeliveryAudiencePrivateKey,
    fun cache keyID entries key h => SealedAudienceSource.thumbprint_of_audiencePrivateKey h, ?_⟩
  · rintro entropy cache contextID entries ⟨usable, husable, -⟩
    have hne := List.ne_nil_of_mem husable
    refine ⟨exists_congr fun result => SealedAudienceSource.currentKey_iff hne, ?_⟩
    intro pub keyID h
    obtain ⟨rec, hrec, hkey⟩ := SealedAudienceSource.eligible_of_currentKey hne h
    exact ⟨rec, hrec, StoredAudience.key_eq_ok.mp hkey⟩
  · intro sealKeys sealKey keyID entries hkeys hseal _
    exact SealedAudienceSource.exists_audiencePrivateKey_iff hkeys hseal
  · intro reader manager keyID entries key h
    obtain ⟨entry, -, hkey⟩ := queryDeliveryAudiencePrivateKey_eq_ok h
    obtain ⟨payload, hpayload, rfl, hd⟩ := deliveredKey_eq_some.mp hkey
    exact thumbprint_of_deliveryPayload hpayload hd

/-! ### Records that stand in the way -/

theorem publicKeyBytesFromJWK_publicJWK {pub : Bytes} (h : pub.length = 32) :
    publicKeyBytesFromJWK (publicJWK pub) = .ok pub := by
  have hdecode : Base64.rawURLDecode (publicJWK pub).x = some pub :=
    Base64.rawURLDecode_rawURLEncode pub
  rw [publicKeyBytesFromJWK, if_neg (by simp [publicJWK]), hdecode]
  exact if_neg (not_not.mpr h)

/-- A reader of entries that number the records of a list. -/
def listing (records : List StoredAudience) : EntryReader where
  wrappedData entry :=
    match records[(entry.headD 0).toNat]? with
    | some rec => Base64.rawURLEncode (AudiencePayload.encoding.marshal rec.payload)
    | none => ""
  flatData _ := ""
  payload := AudiencePayload.encoding
  metadata entry :=
    match records[(entry.headD 0).toNat]? with
    | some rec => .ok ⟨rec.recordID, rec.dateCreated, none⟩
    | none => .error "unexpected end of JSON input"
  signerDID entry := ((records[(entry.headD 0).toNat]?).map (·.author)).getD ""

theorem parseAudienceEntry_listing {records : List StoredAudience} {i : UInt8} {rec : StoredAudience}
    (hrec : records[i.toNat]? = some rec) (hverified : verifyAudiencePayload c rec.payload = .ok ()) :
    parseAudienceEntry c (listing records) [i] = .ok rec := by
  have hdata : entryEncodedData (listing records) [i] =
      some (AudiencePayload.encoding.marshal rec.payload) := by
    have hne := Base64.rawURLEncode_ne_empty
      (AudiencePayload.encoding.marshal_ne_nil rfl rec.payload)
    simp [entryEncodedData, listing, hrec, hne, Except.toOption]
  have hread : (listing records).payload.unmarshal (AudiencePayload.encoding.marshal rec.payload) =
      some rec.payload := AudiencePayload.encoding.unmarshal_marshal _
  have hmetadata : (listing records).metadata [i] = .ok ⟨rec.recordID, rec.dateCreated, none⟩ := by
    simp [listing, hrec]
  have hsigner : (listing records).signerDID [i] = rec.author := by simp [listing, hrec]
  rw [parseAudienceEntry, hdata]
  dsimp only
  rw [hread]
  dsimp only
  rw [hverified, mapError_ok, ok_bind, hmetadata, mapError_ok, ok_bind, hsigner]
  rfl

/-- A payload that verifies, with a public key of one byte. -/
def shortPayload : AudiencePayload :=
  { fivePayload with
    keyID := jwkThumbprintX25519 taggedCiphers "AA"
    publicKeyJwk := ⟨"OKP", "X25519", "AA"⟩ }

/-- A payload of the key 5 that is sealed to nobody. -/
def unopenedPayload : AudiencePayload :=
  { fivePayload with sealedPrivateKey := { fivePayload.sealedPrivateKey with keyID := "" } }

/-- Another payload of the tuple, and a month later the key 5. -/
def beforeFive (payload : AudiencePayload) : List StoredAudience :=
  [⟨payload, "bafy-1", "2026-01-01T00:00:00.000000Z", "did:dht:owner"⟩,
    ⟨fivePayload, "bafy-2", "2026-02-01T00:00:00.000000Z", "did:dht:owner"⟩]

/-- A source with the seal key 1. -/
def listed (records : List StoredAudience) : SealedAudienceSource where
  tenant := "did:dht:owner"
  protoDef := none
  sealKeys := some fun _ _ => .ok (List.replicate 32 1)
  reader := listing records
  dwn := { query := fun _ => .ok [], write := fun _ => .error "read only" }

theorem fivePayload_verified : verifyAudiencePayload taggedCiphers fivePayload = .ok () :=
  verifyAudiencePayload_eq_ok.mpr ⟨by decide, rfl, rfl,
    Base64.rawURLEncode_ne_empty (by decide), rfl, rfl⟩

theorem parseAll_cons {reader : EntryReader} {isMatch : AudiencePayload → Bool} {entry : Bytes}
    {rec : StoredAudience} (hrec : parseAudienceEntry c reader entry = .ok rec)
    (hmatch : isMatch rec.payload = true) (entries : List Bytes) :
    parseAll c reader isMatch (entry :: entries) = rec :: parseAll c reader isMatch entries := by
  refine List.filterMap_cons_some ?_
  rw [hrec]
  simp [Except.toOption, hmatch]

theorem parseAll_beforeFive {payload : AudiencePayload}
    (hverified : verifyAudiencePayload taggedCiphers payload = .ok ())
    {isMatch : AudiencePayload → Bool} (hmatch : isMatch payload = true)
    (hfive : isMatch fivePayload = true) :
    parseAll taggedCiphers (listing (beforeFive payload)) isMatch [[0], [1]] = beforeFive payload := by
  rw [parseAll_cons (parseAudienceEntry_listing rfl hverified) hmatch,
    parseAll_cons (parseAudienceEntry_listing rfl fivePayload_verified) hfive]
  rfl

theorem shortPayload_verified : verifyAudiencePayload taggedCiphers shortPayload = .ok () :=
  verifyAudiencePayload_eq_ok.mpr ⟨by decide, rfl, rfl, by decide, by rw [shortPayload], rfl⟩

theorem unopenedPayload_verified : verifyAudiencePayload taggedCiphers unopenedPayload = .ok () :=
  verifyAudiencePayload_eq_ok.mpr
    ⟨by decide, rfl, rfl, Base64.rawURLEncode_ne_empty (by decide), rfl, rfl⟩

theorem fivePayload_opens : unsealAudienceRecord taggedCiphers fivePayload (List.replicate 32 1) =
    .ok (List.replicate 32 5) := by
  obtain ⟨key, hkey, hseals, -, -, -⟩ := buildAudiencePayload_eq_ok fivePayload_built
  obtain rfl := Except.ok.inj ((base64URLDecode_rawURLEncode _).symm.trans hkey)
  exact hseals.opens (by decide) rfl rfl

/-- The key 5 for its role, with a padded private half. -/
def paddedPayload : DeliveryPayload where
  protocol := "mesh"
  rolePath := "network/node"
  contextID := ""
  keyID := fiveMaterial.keyID
  keyMaterial :=
    { fiveMaterial with
      privateKeyJwk := ⟨"OKP", "X25519", Base64.rawURLEncode (List.replicate 32 5),
        Base64.rawURLEncode (List.replicate 32 5) ++ "="⟩ }

theorem paddedPayload_verified :
    verifyRoleAudienceKeyMaterial taggedCiphers paddedPayload.keyMaterial = .ok () := by
  refine verifyRoleAudienceKeyMaterial_eq_ok.mpr ⟨rfl, rfl, verifyX25519KeyMaterial_eq_ok.mpr
    ⟨List.replicate 32 5, ?_, rfl, rfl, rfl⟩⟩
  decide +kernel

theorem paddedPayload_not_decoded :
    Base64.rawURLDecode paddedPayload.keyMaterial.privateKeyJwk.d = none := by
  decide +kernel

/-- The payload is delivered to the holder of some root key. -/
theorem exists_paddedDelivery (root : Bytes) : ∃ reader : DeliveryReader,
    ∀ entry keyID, deliveryPayload taggedCiphers reader root ⟨"mesh", "network/node", keyID⟩ entry =
      some paddedPayload := by
  have hpath : "" ∉ buildProtocolPathDerivation "mesh" (splitProtocolPath "network/node") := by
    decide +kernel
  have hrole : deriveRolePathKey taggedCiphers root "mesh" "network/node" = .ok _ :=
    deriveKeyBytes_ok hpath root
  generalize hrolePriv : (buildProtocolPathDerivation "mesh"
    (splitProtocolPath "network/node")).foldl taggedCiphers.hkdf root = rolePriv at hrole
  have hlen : rolePriv.length = 32 := by
    rw [← hrolePriv]
    exact length_foldl_hkdf (by decide) root
  obtain ⟨ct, enc, henc, hct⟩ := exists_encryptData (c := taggedCiphers)
    ⟨List.replicate 32 6, rfl⟩ ⟨List.replicate 16 7, rfl⟩ hlen
    (show taggedCiphers.x25519 (⟨List.replicate 32 2, rfl⟩ : Buffer 32).val rolePriv = some _ from rfl)
    (DeliveryPayload.encoding.marshal paddedPayload)
  have hdecrypt : decryptDeliveryRecord taggedCiphers DeliveryPayload.encoding root "mesh"
      "network/node" (some enc) ct = .ok paddedPayload :=
    decryptDeliveryRecord_encryptData hrole hlen rfl paddedPayload_verified henc
  have hne : Base64.rawURLEncode ct ≠ "" := by
    refine Base64.rawURLEncode_ne_empty (List.ne_nil_of_length_pos ?_)
    rw [hct, List.length_pos_iff]
    exact DeliveryPayload.encoding.marshal_ne_nil rfl paddedPayload
  refine ⟨⟨fun _ => some (Base64.rawURLEncode ct, some enc), fun _ => none, DeliveryPayload.encoding⟩,
    fun entry keyID => ?_⟩
  simp [deliveryPayload, entryEncryptionAndData, hne, hdecrypt, Except.toOption]

/-- An older record whose key does not decode hides the key 5, a record that does not open hides one
that does, and a padded delivery is not used. -/
theorem usable_records_hidden :
    ((∃ rec ∈ (listed (beforeFive shortPayload)).tupleRecords taggedCiphers "mesh" "network/node" ""
        [[0], [1]], publicKeyBytesFromJWK rec.payload.publicKeyJwk = .ok (List.replicate 32 5)) ∧
      ∀ entropy, ∃ e, ((listed (beforeFive shortPayload)).answering [[0], [1]]).currentKey
        taggedCiphers entropy ∅ "mesh" "network/node" "" = .error e) ∧
    ((∃ rec ∈ (listed (beforeFive unopenedPayload)).keyRecords taggedCiphers "mesh" "network/node"
        fivePayload.keyID [[0], [1]], unsealAudienceRecord taggedCiphers rec.payload
          (List.replicate 32 1) = .ok (List.replicate 32 5)) ∧
      ∃ e, ((listed (beforeFive unopenedPayload)).answering [[0], [1]]).audiencePrivateKeyByKeyID
        taggedCiphers ∅ "mesh" "network/node" fivePayload.keyID = .error e) ∧
    ∃ reader : DeliveryReader,
      (∃ entry ∈ [[0]], ∃ payload, deliveryPayload taggedCiphers reader (List.replicate 32 1)
        ⟨"mesh", "network/node", fivePayload.keyID⟩ entry = some payload ∧
          payload.keyID = fivePayload.keyID) ∧
      ∃ e, queryDeliveryAudiencePrivateKey taggedCiphers reader
        ⟨"mesh", "network/node", fivePayload.keyID⟩ (some ⟨List.replicate 32 1, "mesh"⟩)
          (.ok [[0]]) = .error e := by
  have hshort : (listed (beforeFive shortPayload)).tupleRecords taggedCiphers "mesh" "network/node" ""
      [[0], [1]] = beforeFive shortPayload :=
    parseAll_beforeFive shortPayload_verified (by simp [shortPayload, fivePayload])
      (by simp [fivePayload])
  have hunopened : (listed (beforeFive unopenedPayload)).keyRecords taggedCiphers "mesh"
      "network/node" fivePayload.keyID [[0], [1]] = beforeFive unopenedPayload :=
    parseAll_beforeFive unopenedPayload_verified (by simp [unopenedPayload, fivePayload])
      (by simp [fivePayload])
  have hfive (payload : AudiencePayload) : ⟨fivePayload, "bafy-2", "2026-02-01T00:00:00.000000Z",
      "did:dht:owner"⟩ ∈ beforeFive payload := by
    simp [beforeFive]
  have hpub : publicKeyBytesFromJWK fivePayload.publicKeyJwk = .ok (List.replicate 32 5) :=
    publicKeyBytesFromJWK_publicJWK rfl
  refine ⟨⟨?_, fun entropy => ?_⟩, ⟨?_, ?_⟩, ?_⟩
  · rw [hshort]
    exact ⟨_, hfive _, hpub⟩
  · rw [exists_eq_error]
    intro result hresult
    have hne : (listed (beforeFive shortPayload)).tupleRecords taggedCiphers "mesh" "network/node" ""
        [[0], [1]] ≠ [] := by
      rw [hshort]
      exact List.cons_ne_nil _ _
    obtain ⟨rec, hrec, hkey⟩ := SealedAudienceSource.eligible_of_currentKey hne hresult
    rw [SealedAudienceSource.Eligible, AList.lookup_empty] at hrec
    dsimp only at hrec
    rw [hshort] at hrec
    obtain ⟨hmem, hfirst⟩ := hrec
    rcases List.mem_cons.mp hmem with rfl | hmem
    · have hundecoded : publicKeyBytesFromJWK shortPayload.publicKeyJwk =
          .error "invalid X25519 public key length 1" := rfl
      rw [StoredAudience.key, hundecoded] at hkey
      cases hkey
    · obtain rfl := List.mem_singleton.mp hmem
      have hbefore := hfirst _ List.mem_cons_self
      rw [← Bool.not_eq_true] at hbefore
      exact hbefore (by decide +kernel)
  · rw [hunopened]
    exact ⟨_, hfive _, fivePayload_opens⟩
  · rw [exists_eq_error]
    intro key hkey
    obtain ⟨rec, key', hrec, hopens⟩ :=
      (SealedAudienceSource.exists_audiencePrivateKey_iff rfl rfl).mp ⟨key, hkey⟩
    rw [hunopened] at hrec
    obtain rfl := Option.some.inj hrec
    have htarget := (unsealAudienceRecord_eq_ok.mp hopens).2.2.1
    exact Base64.rawURLEncode_ne_empty (by decide) htarget.symm
  · obtain ⟨reader, hreader⟩ := exists_paddedDelivery (List.replicate 32 1)
    refine ⟨reader, ⟨[0], List.mem_cons_self, paddedPayload, hreader _ _, rfl⟩, ?_⟩
    rw [exists_eq_error]
    intro key hkey
    obtain ⟨entry, -, payload, key', hpayload, -, hd⟩ :=
      exists_queryDeliveryAudiencePrivateKey.mp ⟨key, hkey⟩
    obtain rfl := Option.some.inj (hpayload.symm.trans (hreader _ _))
    rw [paddedPayload_not_decoded] at hd
    cases hd

end Meshd.Control.Sealed

import Meshd.Dwn.Message

namespace Meshd.Dwn

open Meshd.Framework Meshd.Dwn.Crypto

/-! The CIDs in a signature against those of the message as it is read from the wire. -/

variable (f : Formats)

/-! ### The JSON of a message -/

def JWSSignature.value (signature : JWSSignature) : GoValue :=
  .typedMap [("protected", .str signature.protectedHeader), ("signature", .str signature.signature)]

def GeneralJWS.value (jws : GeneralJWS) : GoValue :=
  .typedMap [("payload", .str jws.payload),
    ("signatures", .typedSlice (jws.signatures.map JWSSignature.value))]

def Authorization.members (authorization : Authorization) : List (String × GoValue) :=
  ("signature", authorization.signature.value) ::
    (if authorization.authorDelegatedGrant = [] then []
      else [("authorDelegatedGrant", .raw authorization.authorDelegatedGrant)])

def Message.members (msg : Message) : List (String × GoValue) :=
  optionalText "recordId" msg.recordID ++ (optionalText "contextId" msg.contextID ++
    ("descriptor", .map msg.descriptor) :: ("authorization", .typedMap msg.authorization.members) ::
    (match msg.encryption with
      | none => []
      | some enc => [("encryption", encryptionValue enc)]))

def Message.value (msg : Message) : GoValue := .typedMap msg.members

/-- A member of a value that was read. -/
def member (name : String) : GoValue → Option GoValue
  | .map fields => fields.lookup name
  | _ => none

/-- The message is read back from its JSON with the descriptor, and the encryption where there is
one, whose CIDs are signed. -/
def SignsWire (msg : Message) : Prop :=
  ∃ wire, reread f msg.value = some wire ∧
    (∃ descriptor, member "descriptor" wire = some descriptor ∧
      signedMember msg.authorization.signature "descriptorCid" = some (computeCID f descriptor)) ∧
    (∀ enc, msg.encryption = some enc → ∃ encryption, member "encryption" wire = some encryption ∧
      signedMember msg.authorization.signature "encryptionCid" = some (computeCID f encryption))

/-! ### Members of objects that are read back -/

def Rereads (v : GoValue) : Prop := ∃ w, reread f v = some w

variable {f} {ps qs desc : List (String × GoValue)} {v : GoValue} {name : String} {msg : Message}
  {s : Signer} {auth : MessageAuth}

/-- Where all members are read back, the object is. -/
theorem exists_rereadFields (h : ∀ p ∈ ps, Rereads f p.2) : ∃ qs, rereadFields f ps = some qs := by
  induction ps with
  | nil => exact ⟨[], rfl⟩
  | cons p ps ih =>
    obtain ⟨k, v⟩ := p
    obtain ⟨w, hw⟩ := h (k, v) List.mem_cons_self
    obtain ⟨qs, hqs⟩ := ih fun p hp => h p (List.mem_cons_of_mem _ hp)
    exact ⟨(k, w) :: qs, by rw [rereadFields_cons, hw, hqs]; rfl⟩

/-- Each member of an object that was read back is under its name. -/
theorem lookup_rereadFields (h : rereadFields f ps = some qs) (hv : ps.lookup name = some v) :
    ∃ w, reread f v = some w ∧ qs.lookup name = some w := by
  induction ps generalizing qs with
  | nil => simp at hv
  | cons p ps ih =>
    obtain ⟨k, u⟩ := p
    rw [rereadFields_cons] at h
    obtain ⟨w, hw, hrest⟩ := Option.bind_eq_some_iff.mp h
    obtain ⟨qs', hqs', rfl⟩ := Option.map_eq_some_iff.mp hrest
    rw [List.lookup_cons] at hv ⊢
    cases hname : name == k with
    | true =>
      rw [hname] at hv
      exact ⟨w, Option.some.inj hv ▸ hw, rfl⟩
    | false =>
      rw [hname] at hv
      exact ih hqs' hv

theorem rereads_of_settled (h : Settled v) : Rereads f v := by
  obtain ⟨w, hw, -⟩ := sameCbor_of_settled h
  exact ⟨w, hw⟩

theorem settledFields_append : SettledFields (ps ++ qs) ↔ SettledFields ps ∧ SettledFields qs := by
  induction ps with
  | nil => simp [SettledFields]
  | cons p ps ih => simp [SettledFields, ih, and_assoc]

theorem plainFields_append : PlainFields (ps ++ qs) ↔ PlainFields ps ∧ PlainFields qs := by
  induction ps with
  | nil => simp [PlainFields]
  | cons p ps ih => simp [PlainFields, ih, and_assoc]

theorem plainFields_optionalText (name text : String) : PlainFields (optionalText name text) := by
  rw [optionalText]
  split_ifs <;> simp [PlainFields, PlainField, Plain]

theorem settledFields_optionalText (name text : String) :
    SettledFields (optionalText name text) := by
  rw [optionalText]
  split_ifs <;> simp [SettledFields, SettledField, Settled]

theorem settledItems_map {α : Type} {g : α → GoValue} (h : ∀ a, Settled (g a)) (as : List α) :
    SettledItems (as.map g) := by
  induction as with
  | nil => trivial
  | cons a as ih => exact ⟨h a, ih⟩

theorem settled_keyEncryptionValue (entry : KeyEncryption) : Settled (keyEncryptionValue entry) := by
  simp only [keyEncryptionValue, Settled, settledFields_append]
  refine ⟨⟨⟨trivial, trivial, ?_, trivial, trivial, trivial⟩, settledFields_optionalText _ _⟩,
    settledFields_optionalText _ _⟩
  cases entry.ephemeralPublicKey with
  | none => trivial
  | some jwk => exact ⟨trivial, trivial, trivial, trivial⟩

theorem settled_encryptionValue (enc : Encryption) : Settled (encryptionValue enc) :=
  ⟨trivial, trivial, settledItems_map settled_keyEncryptionValue _, trivial⟩

/-! ### Signatures -/

theorem signedMember_signJWS (fields : List (String × Json)) (kid : String) (sign : Bytes → Bytes)
    (name : String) :
    signedMember (signJWS (.obj fields) kid sign) name =
      (Json.field name fields).bind Json.asString := by
  simp [signedMember, signJWS, JsonText.unmarshal_marshal, Json.asObject]

theorem computeCID_eq {w : GoValue}
    (h : (normalizeForCBOR w).toCbor = (normalizeForCBOR v).toCbor) :
    computeCID f v = computeCID f w := by
  rw [computeCID, computeCID, h]

theorem computeCID_ne_empty (v : GoValue) : computeCID f v ≠ "" := f.cid_ne_empty _ _

/-- A plain descriptor is read back with the CID it had before it was normalized. -/
theorem reread_descriptor (h : PlainFields desc) :
    ∃ w, reread f (.map (normalizeFields desc)) = some w ∧
      computeCID f (.map desc) = computeCID f w := by
  have hplain : Plain (.map desc) := h
  have hkept := sameCbor_normalizeForCBOR (f := f) hplain
  rw [normalizeForCBOR] at hkept
  obtain ⟨w, hw, hcbor⟩ := hkept
  exact ⟨w, hw, computeCID_eq (by rw [hcbor, normalizeForCBOR])⟩

/-- An invoked grant could be read. -/
theorem rereads_delegatedGrant {grant : Bytes} {id : String}
    (h : delegatedGrantID f grant = .ok id) (hne : grant ≠ []) : Rereads f (.raw grant) := by
  rw [delegatedGrantID, if_neg hne, computeDelegatedGrantID] at h
  cases hread : unmarshalAny f grant with
  | none => simp [hread] at h
  | some w => exact ⟨w, by rw [reread, GoValue.encode]; exact hread⟩

theorem settled_jws (jws : GeneralJWS) : Settled jws.value :=
  ⟨trivial, settledItems_map
    (fun _ => ⟨trivial, trivial, trivial⟩ : ∀ s, Settled (JWSSignature.value s)) _, trivial⟩

theorem rereads_authorization {authorization : Authorization} {id : String}
    (h : delegatedGrantID f authorization.authorDelegatedGrant = .ok id) :
    Rereads f (.typedMap authorization.members) := by
  have hmembers : ∀ p ∈ authorization.members, Rereads f p.2 := by
    intro p hp
    rw [Authorization.members] at hp
    rcases List.mem_cons.mp hp with rfl | hp
    · exact rereads_of_settled (settled_jws _)
    · split_ifs at hp with hnil
      · simp at hp
      · obtain rfl := List.mem_singleton.mp hp
        exact rereads_delegatedGrant h hnil
  obtain ⟨qs, hqs⟩ := exists_rereadFields hmembers
  exact ⟨.map qs, by rw [reread_typedMap, hqs]; rfl⟩

theorem lookup_optionalText {other : String} (h : other ≠ name) (text : String)
    (rest : List (String × GoValue)) :
    (optionalText name text ++ rest).lookup other = rest.lookup other := by
  rw [optionalText]
  split_ifs
  · rfl
  · rw [List.cons_append, List.nil_append, List.lookup_cons, beq_false_of_ne h]

theorem lookup_descriptor (msg : Message) :
    msg.members.lookup "descriptor" = some (.map msg.descriptor) := by
  rw [Message.members, lookup_optionalText (by decide), lookup_optionalText (by decide)]
  rfl

theorem lookup_encryption {enc : Encryption} (h : msg.encryption = some enc) :
    msg.members.lookup "encryption" = some (encryptionValue enc) := by
  rw [Message.members, lookup_optionalText (by decide), lookup_optionalText (by decide), h]
  rfl

/-- What is signed is the CID of the descriptor as it is read back. -/
theorem SignsWire.descriptor (h : SignsWire f msg) :
    ∃ w, reread f (.map msg.descriptor) = some w ∧
      signedMember msg.authorization.signature "descriptorCid" = some (computeCID f w) := by
  obtain ⟨wire, hwire, ⟨descriptor, hmember, hsigned⟩, -⟩ := h
  rw [Message.value, reread_typedMap] at hwire
  obtain ⟨qs, hqs, rfl⟩ := Option.map_eq_some_iff.mp hwire
  obtain ⟨w, hw, hlookup⟩ := lookup_rereadFields hqs (lookup_descriptor msg)
  obtain rfl := Option.some.inj (hlookup.symm.trans hmember)
  exact ⟨w, hw, hsigned⟩

/-- What is left to show of a message once its parts are read back. -/
theorem signsWire_of {id : String}
    (hgrant : delegatedGrantID f msg.authorization.authorDelegatedGrant = .ok id)
    (hdescriptor : ∃ w, reread f (.map msg.descriptor) = some w ∧
      signedMember msg.authorization.signature "descriptorCid" = some (computeCID f w))
    (hencryption : ∀ enc, msg.encryption = some enc →
      ∀ w, reread f (encryptionValue enc) = some w →
        signedMember msg.authorization.signature "encryptionCid" = some (computeCID f w)) :
    SignsWire f msg := by
  obtain ⟨w, hw, hsigned⟩ := hdescriptor
  have htexts : ∀ name text, ∀ p ∈ optionalText name text, Rereads f p.2 := by
    intro name text p hp
    rw [optionalText] at hp
    split_ifs at hp with h
    · simp at hp
    · obtain rfl := List.mem_singleton.mp hp
      exact ⟨.str text, rfl⟩
  have hall : ∀ p ∈ msg.members, Rereads f p.2 := by
    intro p hp
    simp only [Message.members, List.mem_append, List.mem_cons] at hp
    rcases hp with hp | hp | rfl | rfl | hp
    · exact htexts _ _ p hp
    · exact htexts _ _ p hp
    · exact ⟨w, hw⟩
    · exact rereads_authorization hgrant
    · cases henc : msg.encryption with
      | none => simp [henc] at hp
      | some enc =>
        simp only [henc, List.mem_singleton] at hp
        exact hp ▸ rereads_of_settled (settled_encryptionValue enc)
  obtain ⟨qs, hqs⟩ := exists_rereadFields hall
  refine ⟨.map qs, by rw [Message.value, reread_typedMap, hqs]; rfl, ?_, fun enc henc => ?_⟩
  · obtain ⟨w', hw', hfound⟩ := lookup_rereadFields hqs (lookup_descriptor msg)
    obtain rfl := Option.some.inj (hw.symm.trans hw')
    exact ⟨w, hfound, hsigned⟩
  · obtain ⟨w', hw', hfound⟩ := lookup_rereadFields hqs (lookup_encryption henc)
    exact ⟨w', hfound, hencryption enc henc w' hw'⟩

/-! ### The builders -/

theorem signGenericMessage_eq_ok (h : signGenericMessage f s desc auth = .ok msg) :
    ∃ grantID, delegatedGrantID f auth.delegatedGrant = .ok grantID ∧
      msg = { descriptor := normalizeFields
                (desc ++ optionalText "permissionGrantId" auth.permissionGrantID)
              authorization :=
                { signature := signJWS (genericSignaturePayload
                    (computeCID f
                      (.map (desc ++ optionalText "permissionGrantId" auth.permissionGrantID)))
                    auth.permissionGrantID grantID auth.protocolRole) s.keyID s.sign
                  authorDelegatedGrant := auth.delegatedGrant } } := by
  rw [signGenericMessage, ite_error_eq_ok, bind_eq_ok] at h
  obtain ⟨-, grantID, hgrant, hmsg⟩ := h
  exact ⟨grantID, hgrant, (Except.ok.inj hmsg).symm⟩

/-- A message with a plain descriptor signs what is on the wire. -/
theorem signsWire_generic (hplain : PlainFields desc)
    (h : signGenericMessage f s desc auth = .ok msg) : SignsWire f msg := by
  obtain ⟨grantID, hgrant, rfl⟩ := signGenericMessage_eq_ok h
  obtain ⟨w, hw, hcid⟩ := reread_descriptor (f := f)
    (plainFields_append.mpr ⟨hplain,
      plainFields_optionalText "permissionGrantId" auth.permissionGrantID⟩)
  refine signsWire_of hgrant ⟨w, hw, ?_⟩ (by simp)
  rw [genericSignaturePayload, signedMember_signJWS, hcid]
  rfl

/-- The values in a filter are plain. -/
structure RecordsFilter.IsPlain (filter : RecordsFilter) : Prop where
  author : Plain filter.author
  recipient : Plain filter.recipient
  tags : PlainFields filter.tags

theorem plainFields_optionalAny (h : Plain v) : PlainFields (optionalAny name v) := by
  rw [optionalAny.eq_def]
  split
  · trivial
  · exact ⟨h, trivial⟩

theorem plainFields_optionalMap {fields : List (String × GoValue)} (h : PlainFields fields) :
    PlainFields (optionalMap name fields) := by
  rw [optionalMap]
  split_ifs
  · trivial
  · exact ⟨h, trivial⟩

theorem plainFields_filterToMap {filter : RecordsFilter} (h : filter.IsPlain) :
    PlainFields (filterToMap filter) := by
  simp only [filterToMap, plainFields_append, plainFields_optionalText, true_and, and_true]
  refine ⟨⟨⟨plainFields_optionalAny h.author, plainFields_optionalAny h.recipient⟩, ?_⟩,
    plainFields_optionalMap h.tags⟩
  cases filter.published with
  | none => trivial
  | some b => exact ⟨trivial, trivial⟩

theorem plainFields_baseDescriptor (interface method now : String) :
    PlainFields (baseDescriptor interface method now) := ⟨trivial, trivial, trivial, trivial⟩

/-- A descriptor with a filter. -/
theorem plainFields_filter {method now : String} {filter : RecordsFilter} (h : filter.IsPlain) :
    PlainFields (baseDescriptor "Records" method now ++ [("filter", .map (filterToMap filter))]) :=
  plainFields_append.mpr ⟨plainFields_baseDescriptor _ _ _, plainFields_filterToMap h, trivial⟩

theorem plainFields_paginationToMap {pagination : Pagination} (hlimit : pagination.limit < 2 ^ 53)
    (hcursor : pagination.cursor = none) : PlainFields (paginationToMap pagination) := by
  rw [paginationToMap, hcursor, List.append_nil]
  split_ifs with hpos
  · exact ⟨by rw [PlainField, Plain]; omega, trivial⟩
  · trivial

theorem plainFields_writeDescriptor {opts : RecordsWriteOptions} (now dataCID : String)
    {dataSize : Nat} (htags : PlainFields opts.tags) (hsize : dataSize < 2 ^ 53) :
    PlainFields (writeDescriptor opts now dataCID dataSize) := by
  have hparent : PlainFields (if opts.parentContextID = "" then []
      else [("parentId", .str (parentIDOf opts.parentContextID))]) := by
    split_ifs
    · trivial
    · exact ⟨trivial, trivial⟩
  have hsquash : PlainFields (if opts.squash then [("squash", .bool true)] else []) := by
    split_ifs
    · exact ⟨trivial, trivial⟩
    · trivial
  have hbase : PlainFields [("interface", .str "Records"), ("method", .str "Write"),
      ("protocol", .str opts.protocol), ("protocolPath", .str opts.protocolPath),
      ("dataCid", .str dataCID), ("dataSize", .int dataSize),
      ("dateCreated", .str (if opts.dateCreated = "" then now else opts.dateCreated)),
      ("messageTimestamp", .str now), ("dataFormat", .str opts.dataFormat)] :=
    ⟨trivial, trivial, trivial, trivial, trivial, by simpa [PlainField, Plain] using hsize, trivial,
      trivial, trivial, trivial⟩
  simp only [writeDescriptor, plainFields_append, plainFields_optionalText, and_true]
  refine ⟨⟨⟨⟨hbase, hparent⟩, plainFields_optionalMap htags⟩, ?_⟩, hsquash⟩
  rcases opts.published with _ | _ | _
  · trivial
  · exact ⟨trivial, trivial⟩
  · exact ⟨trivial, trivial, trivial⟩

theorem field_omitEmpty {other : String} (h : name ≠ other) (text : String)
    (rest : List (String × Json)) :
    Json.field other (omitEmpty name text ++ rest) = Json.field other rest := by
  rw [omitEmpty]
  split_ifs
  · rfl
  · rw [List.cons_append, Json.field, if_neg h, List.nil_append]

theorem field_omitEmpty_self {text : String} (h : text ≠ "") (rest : List (String × Json)) :
    Json.field name (omitEmpty name text ++ rest) = some (.str text) := by
  rw [omitEmpty, if_neg h, List.cons_append, Json.field, if_pos rfl]

/-- A write with plain tags signs what is on the wire, and its envelope. -/
theorem signsWire_write {c : Primitives} {entropy : Entropy} {now : String}
    {opts : RecordsWriteOptions} {result : BuildRecordsWriteResult}
    (htags : PlainFields opts.tags) (hsize : result.wireData.length < 2 ^ 53)
    (h : buildRecordsWrite f c entropy s now opts = .ok result) : SignsWire f result.message := by
  simp only [buildRecordsWrite, ite_error_eq_ok, bind_eq_ok] at h
  obtain ⟨-, -, -, grantID, hgrant, author, -, ⟨wireData, encryption⟩, -, encCID, henc, hresult⟩ := h
  obtain rfl := Except.ok.inj hresult
  obtain ⟨w, hw, hcid⟩ := reread_descriptor (f := f)
    (plainFields_writeDescriptor now (computeDataCID f wireData) htags hsize)
  refine signsWire_of hgrant ⟨w, hw, ?_⟩ ?_
  · rw [recordsWriteSignaturePayload, signedMember_signJWS, hcid]
    rfl
  · intro enc hsome v hv
    obtain rfl : encryption = some enc := hsome
    rw [encryptionCIDOf, bind_eq_ok] at henc
    obtain ⟨m, hm, hencCID⟩ := henc
    obtain rfl := Except.ok.inj hencCID
    rw [mapError_eq_ok, structToMap, hv] at hm
    obtain rfl := Except.ok.inj hm
    rw [recordsWriteSignaturePayload, signedMember_signJWS]
    simp only [List.append_assoc, List.cons_append, List.nil_append, Json.field]
    rw [if_neg (by decide), if_neg (by decide), field_omitEmpty (by decide),
      field_omitEmpty_self (computeCID_ne_empty v)]
    rfl

/-! ### What a message that signs what is on the wire has in its descriptor -/

/-- The items of the descriptor and of what is read for it differ in their CIDs if they differ. -/
def NoCollision (f : Formats) (msg : Message) : Prop :=
  ∀ w, reread f (.map msg.descriptor) = some w →
    itemCID f (GoValue.map msg.descriptor).toCbor = itemCID f (normalizeForCBOR w).toCbor →
    (normalizeForCBOR w).toCbor = (GoValue.map msg.descriptor).toCbor

/-- The message signs what is on the wire where `condition` holds, and without a collision only
there. -/
def SignsWireIf (f : Formats) (msg : Message) (condition : Prop) : Prop :=
  (condition → SignsWire f msg) ∧ (NoCollision f msg → SignsWire f msg → condition)

theorem SignsWire.sameCborFields (h : SignsWire f msg) (hno : NoCollision f msg)
    (hdesc : msg.descriptor = normalizeFields desc)
    (hsigned : signedMember msg.authorization.signature "descriptorCid" =
      some (computeCID f (.map desc))) : SameCborFields f (normalizeFields desc) := by
  obtain ⟨w, hw, hread⟩ := h.descriptor
  have hcid : computeCID f (.map desc) = computeCID f w := Option.some.inj (hsigned.symm.trans hread)
  rw [computeCID, computeCID, normalizeForCBOR, ← hdesc] at hcid
  rw [← hdesc]
  exact sameCbor_map.mp ⟨w, hw, hno w hw hcid⟩

theorem sameCbor_of_mem (h : SameCborFields f (normalizeFields ps)) {p : String × GoValue}
    (hp : p ∈ ps) : SameCbor f (normalizeForCBOR p.2) := by
  induction ps with
  | nil => simp at hp
  | cons q ps ih =>
    obtain ⟨k, v⟩ := q
    obtain ⟨hfirst, hrest⟩ := sameCborFields_cons.mp h
    rcases List.mem_cons.mp hp with rfl | hp
    · exact hfirst
    · exact ih hrest hp

theorem sameCborFields_of_mem (name : String) (h : SameCborFields f (normalizeFields ps))
    (hp : (name, .map qs) ∈ ps) : SameCborFields f (normalizeFields qs) := by
  have hmap := sameCbor_of_mem h hp
  rw [normalizeForCBOR] at hmap
  exact sameCbor_map.mp hmap

theorem plain_of_optionalAny (name : String) (hsmall : Small v)
    (h : SameCborFields f (normalizeFields ps)) (hsub : optionalAny name v ⊆ ps) : Plain v := by
  rw [optionalAny.eq_def] at hsub
  split at hsub
  · trivial
  · exact plain_of_sameCbor hsmall (sameCbor_of_mem h (hsub List.mem_cons_self))

theorem plainFields_of_optionalMap (name : String) {fields : List (String × GoValue)}
    (hsmall : SmallFields fields) (h : SameCborFields f (normalizeFields ps))
    (hsub : optionalMap name fields ⊆ ps) : PlainFields fields := by
  rw [optionalMap] at hsub
  split_ifs at hsub with hnil
  · exact hnil ▸ trivial
  · exact plainFields_of_sameCbor hsmall (sameCborFields_of_mem name h (hsub List.mem_cons_self))

/-- The integers in a filter are below `2 ^ 53`. -/
structure RecordsFilter.IsSmall (filter : RecordsFilter) : Prop where
  author : Small filter.author
  recipient : Small filter.recipient
  tags : SmallFields filter.tags

theorem RecordsFilter.IsSmall.isPlain {filter : RecordsFilter} (h : filter.IsSmall)
    (hsame : SameCborFields f (normalizeFields (filterToMap filter))) : filter.IsPlain where
  author := plain_of_optionalAny "author" h.author hsame fun p hp => by simp [filterToMap, hp]
  recipient := plain_of_optionalAny "recipient" h.recipient hsame fun p hp => by simp [filterToMap, hp]
  tags := plainFields_of_optionalMap "tags" h.tags hsame fun p hp => by simp [filterToMap, hp]

/-- A cursor is a byte string in CBOR. -/
theorem cursor_eq_none {pagination : Pagination}
    (h : SameCborFields f (normalizeFields (paginationToMap pagination))) :
    pagination.cursor = none := by
  cases hcursor : pagination.cursor with
  | none => rfl
  | some cursor =>
    have hmem : ("cursor", GoValue.raw cursor) ∈ paginationToMap pagination := by
      simp [paginationToMap, hcursor]
    exact absurd (sameCbor_of_mem h hmem) (not_sameCbor_bytes rfl)

theorem SignsWire.sameCborFields_generic (h : signGenericMessage f s desc auth = .ok msg)
    (hno : NoCollision f msg) (hsigns : SignsWire f msg) :
    SameCborFields f
      (normalizeFields (desc ++ optionalText "permissionGrantId" auth.permissionGrantID)) := by
  obtain ⟨grantID, -, rfl⟩ := signGenericMessage_eq_ok h
  refine hsigns.sameCborFields hno rfl ?_
  rw [genericSignaturePayload, signedMember_signJWS]
  rfl

/-- A write that signs what is on the wire has plain tags. -/
theorem plainFields_of_signsWire_write {c : Primitives} {entropy : Entropy} {now : String}
    {opts : RecordsWriteOptions} {result : BuildRecordsWriteResult}
    (hsmall : SmallFields opts.tags) (h : buildRecordsWrite f c entropy s now opts = .ok result)
    (hno : NoCollision f result.message) (hsigns : SignsWire f result.message) :
    PlainFields opts.tags := by
  simp only [buildRecordsWrite, ite_error_eq_ok, bind_eq_ok] at h
  obtain ⟨-, -, -, grantID, -, author, -, ⟨wireData, encryption⟩, -, encCID, -, hresult⟩ := h
  obtain rfl := Except.ok.inj hresult
  have hsame : SameCborFields f (normalizeFields
      (writeDescriptor opts now (computeDataCID f wireData) wireData.length)) := by
    refine hsigns.sameCborFields hno rfl ?_
    rw [recordsWriteSignaturePayload, signedMember_signJWS]
    rfl
  exact plainFields_of_optionalMap "tags" hsmall hsame fun p hp => by simp [writeDescriptor, hp]

/-! ### All messages -/

theorem signsWireIf_read {now : String} {filter : RecordsFilter} (hsmall : filter.IsSmall)
    (h : buildRecordsReadWithAuth f s now filter auth = .ok msg) :
    SignsWireIf f msg filter.IsPlain := by
  refine ⟨fun hfilter => signsWire_generic (plainFields_filter hfilter) h, fun hno hsigns => ?_⟩
  have hsame := hsigns.sameCborFields_generic h hno
  exact hsmall.isPlain (sameCborFields_of_mem "filter" hsame (by simp))

theorem signsWireIf_query {now dateSort : String} {filter : RecordsFilter} (hsmall : filter.IsSmall)
    {pagination : Option Pagination} (hlimit : ∀ p, pagination = some p → p.limit < 2 ^ 53)
    (h : buildRecordsQueryWithAuth f s now filter dateSort pagination auth = .ok msg) :
    SignsWireIf f msg (filter.IsPlain ∧ ∀ p, pagination = some p → p.cursor = none) := by
  refine ⟨fun ⟨hfilter, hcursor⟩ => signsWire_generic ?_ h, fun hno hsigns => ?_⟩
  · refine plainFields_append.mpr ⟨plainFields_append.mpr ⟨plainFields_filter hfilter,
      plainFields_optionalText _ _⟩, ?_⟩
    cases pagination with
    | none => trivial
    | some p => exact ⟨plainFields_paginationToMap (hlimit p rfl) (hcursor p rfl), trivial⟩
  · have hsame := hsigns.sameCborFields_generic h hno
    refine ⟨hsmall.isPlain (sameCborFields_of_mem "filter" hsame (by simp)), ?_⟩
    rintro p rfl
    exact cursor_eq_none (sameCborFields_of_mem "pagination" hsame (by simp))

/-- A message of any kind signs the CID of the descriptor that is on the wire, and that of its
envelope, where the values in filters and tags are plain and there is no cursor. With other values
or a cursor it does not, unless two descriptors have one CID. -/
theorem signed_descriptor (f : Formats) (s : Signer) (now : String) :
    (∀ c entropy opts result, SmallFields opts.tags → result.wireData.length < 2 ^ 53 →
      buildRecordsWrite f c entropy s now opts = .ok result →
      SignsWireIf f result.message (PlainFields opts.tags)) ∧
    (∀ filter auth msg, filter.IsSmall → buildRecordsReadWithAuth f s now filter auth = .ok msg →
      SignsWireIf f msg filter.IsPlain) ∧
    (∀ filter dateSort auth msg, filter.IsSmall → ∀ pagination : Option Pagination,
      (∀ p, pagination = some p → p.limit < 2 ^ 53) →
      buildRecordsQueryWithAuth f s now filter dateSort pagination auth = .ok msg →
      SignsWireIf f msg (filter.IsPlain ∧ ∀ p, pagination = some p → p.cursor = none)) ∧
    (∀ recordID prune auth msg, buildRecordsDeleteWithAuth f s now recordID prune auth = .ok msg →
      SignsWire f msg) ∧
    (∀ definition msg, (∀ v, unmarshalAny f definition = some v → Plain v) →
      buildProtocolsConfigure f s now definition = .ok msg → SignsWire f msg) ∧
    (∀ protocolURI msg, buildProtocolsQuery f s now protocolURI = .ok msg → SignsWire f msg) := by
  refine ⟨?_, fun _ _ _ hsmall h => signsWireIf_read hsmall h,
    fun _ _ _ _ hsmall _ hlimit h => signsWireIf_query hsmall hlimit h, ?_, ?_, ?_⟩
  · intro c entropy opts result hsmall hsize h
    exact ⟨fun htags => signsWire_write htags hsize h, plainFields_of_signsWire_write hsmall h⟩
  · intro recordID prune auth msg h
    refine signsWire_generic ?_ h
    exact plainFields_append.mpr ⟨plainFields_baseDescriptor _ _ _, trivial, trivial, trivial⟩
  · intro definition msg hplain h
    rw [buildProtocolsConfigure, bind_eq_ok] at h
    obtain ⟨defMap, hdef, hsign⟩ := h
    have hvalue : unmarshalAny f definition = some defMap := by
      rw [definitionMap] at hdef
      split at hdef <;> simp_all
    refine signsWire_generic ?_ hsign
    exact plainFields_append.mpr ⟨plainFields_baseDescriptor _ _ _, hplain _ hvalue, trivial⟩
  · intro protocolURI msg h
    refine signsWire_generic (plainFields_append.mpr ⟨plainFields_baseDescriptor _ _ _, ?_⟩) h
    split_ifs
    · trivial
    · exact ⟨⟨trivial, trivial⟩, trivial⟩

/-- Formats in which a CID shows the whole content, and the one JSON text is the empty object. -/
def plainFormats : Formats where
  parse text := if text = [0x7b, 0x7d] then some (.obj []) else none
  float _ := []
  sha256 bytes := bytes
  cid _ digest := "b" ++ String.ofList (digest.map fun b => Char.ofNat b.toNat)
  cid_ne_empty _ _ := by simp
  reader := ⟨fun _ => .error "", fun _ => .error "", fun _ => .error "", fun _ => none, by simp⟩
  signature _ := .error ""

def plainSigner : Signer := ⟨"did:jwk:owner", fun _ => []⟩

/-- A query for a page, for which the server has given a cursor. -/
def pageQuery (cursor : Option Bytes) : Except String Message :=
  buildRecordsQueryWithAuth plainFormats plainSigner "2026-06-01T00:00:00.000000Z" {}
    "createdAscending" (some { limit := 10, cursor }) {}

/-- Without a cursor the query signs what is on the wire. -/
theorem signed_descriptor_firstPage :
    ∃ msg, pageQuery none = .ok msg ∧ SignsWire plainFormats msg := by
  refine ⟨_, rfl, ?_⟩
  refine ((signed_descriptor plainFormats plainSigner _).2.2.1 {} "createdAscending" {} _
    ⟨trivial, trivial, trivial⟩ (some { limit := 10 }) ?_ rfl).1 ⟨⟨trivial, trivial, trivial⟩, ?_⟩
  · rintro p hp
    obtain rfl := Option.some.inj hp
    decide
  · rintro p hp
    obtain rfl := Option.some.inj hp
    rfl

/-- The descriptor of the query with the cursor as the server reads it. -/
def readPageDescriptor : GoValue :=
  .map [("interface", .str "Records"), ("method", .str "Query"),
    ("messageTimestamp", .str "2026-06-01T00:00:00.000000Z"), ("filter", .map []),
    ("dateSort", .str "createdAscending"),
    ("pagination", .map [("limit", .float (.whole 10)), ("cursor", .map [])])]

theorem reread_readPageDescriptor (h : pageQuery (some [0x7b, 0x7d]) = .ok msg) :
    reread plainFormats (.map msg.descriptor) = some readPageDescriptor := by
  obtain rfl := Except.ok.inj h
  rfl

/-- With the cursor it does not. -/
theorem signed_descriptor_secondPage :
    ∃ msg, pageQuery (some [0x7b, 0x7d]) = .ok msg ∧ ¬ SignsWire plainFormats msg := by
  refine ⟨_, rfl, ?_⟩
  intro hsigns
  obtain ⟨w, hw, hsigned⟩ := hsigns.descriptor
  rw [reread_readPageDescriptor rfl] at hw
  obtain rfl := Option.some.inj hw
  rw [genericSignaturePayload, signedMember_signJWS] at hsigned
  have hcid := Option.some.inj hsigned
  revert hcid
  decide +kernel

end Meshd.Dwn

import Meshd.Control.AudienceSelection
import Meshd.Mesh.JoinerKeys

namespace Meshd.Mesh.KeyDelivery

open Meshd.Framework Meshd.Dwn.Crypto Meshd.Control.Sealed
open Meshd.Mesh.MeshProtocol (meshProtocolURI)

/-! Which audience key a joiner is handed. -/

/-- An `$encryption/delivery` record: the recipient and the tags it is found by, and its encrypted
data. -/
structure DeliveryRecord where
  recipient : String
  rolePath : String
  contextID : String
  keyID : String
  enc : Encryption
  data : Bytes

/-- The records that a query for a target finds. -/
def DeliveryRecord.isTo (t : DeliveryTarget) (d : DeliveryRecord) : Bool :=
  d.recipient = t.recipient ∧ d.rolePath = t.rolePath ∧ d.contextID = t.contextID

/-- What the calls for one target come to: the query, the entropy of a mint and of the encryption,
the recipient's installed definition, and the status of the write. A write that fails may have been
carried out all the same. -/
structure TargetCalls where
  query : Except String Unit := .ok ()
  mint : MintEntropy
  recipientDef : Except String Json
  entropy : Entropy
  write : Except String (Int × String) := .ok (202, "Accepted")
  lost : Bool := false

/-- The delivery records on the anchor, and the cache of the audience source. -/
structure DeliveryState where
  deliveries : List DeliveryRecord
  cache : GoMap StoredAudience

/-- The payload that hands over a key. -/
def keyPayload (rolePath contextID : String) (pub : Bytes) (keyID : String) (audiencePriv : Bytes) :
    DeliveryPayload :=
  let x := Base64.rawURLEncode pub
  { protocol := meshProtocolURI, rolePath, contextID, keyID
    keyMaterial :=
      { algorithm := algX25519HKDFA256KW
        derivationScheme := derivationSchemeRoleAudience
        keyID
        publicKeyJwk := ⟨"OKP", "X25519", x⟩
        privateKeyJwk := ⟨"OKP", "X25519", x, Base64.rawURLEncode audiencePriv⟩ } }

section Run
variable (c : Primitives) (encoding : Encoding DeliveryPayload) (src : SealedAudienceSource)

/-- The cache after the call of `Current` for a target. -/
def cacheAfter (t : DeliveryTarget) (calls : TargetCalls) (s : DeliveryState) :
    GoMap StoredAudience :=
  (src.current c calls.mint s.cache meshProtocolURI t.rolePath t.contextID).2

/-- `DeliverAudienceKey` up to its write. -/
def buildDelivery (t : DeliveryTarget) (calls : TargetCalls) (s : DeliveryState) :
    Except String DeliveryRecord := do
  let (pub, keyID) ← (src.currentKey c calls.mint s.cache meshProtocolURI t.rolePath
    t.contextID).mapError (("resolving audience for " ++ t.rolePath ++ ": ") ++ ·)
  let audiencePriv ← (src.audiencePrivateKeyByKeyID c (cacheAfter c src t calls s) meshProtocolURI
    t.rolePath keyID).mapError (("unsealing audience key " ++ keyID ++ ": ") ++ ·)
  let recipientDef ← calls.recipientDef.mapError
    ("fetching recipient's installed protocol (the joiner must install the mesh protocol on its own tenant): "
      ++ ·)
  let (recipientRolePub, _) ← (keyAgreementPublicKeyAtPath c recipientDef t.rolePath).mapError
    ("resolving recipient role-path key: " ++ ·)
  let payload := keyPayload t.rolePath t.contextID pub keyID audiencePriv
  let (data, enc) ← (encryptData c calls.entropy (encoding.marshal payload)
    [deliveryRecipient recipientRolePub]).mapError
      ("writing delivery record: building RecordsWrite: encrypting data: " ++ ·)
  return { recipient := t.recipient, rolePath := t.rolePath, contextID := t.contextID,
           keyID, enc, data }

/-- The write, and what it answers. -/
def writeDelivery (calls : TargetCalls) (record : DeliveryRecord) (s : DeliveryState) :
    Except String Unit × DeliveryState :=
  let written := { s with deliveries := record :: s.deliveries }
  match calls.write with
  | .error e => (.error ("writing delivery record: " ++ e), if calls.lost then written else s)
  | .ok (code, detail) =>
    if 300 ≤ code then
      (.error ("delivery write failed: " ++ toString code ++ " " ++ detail),
        if calls.lost then written else s)
    else (.ok (), written)

def deliverAudienceKey (t : DeliveryTarget) (calls : TargetCalls) (s : DeliveryState) :
    Except String Unit × DeliveryState :=
  if t.recipient = "" ∨ t.rolePath = "" then (.error "recipient DID and role path are required", s)
  else
    let s' := { s with cache := cacheAfter c src t calls s }
    match buildDelivery c encoding src t calls s with
    | .error e => (.error e, s')
    | .ok record => writeDelivery calls record s'

def deliveryRecordExists (t : DeliveryTarget) (calls : TargetCalls) (s : DeliveryState) :
    Except String Bool := do
  calls.query
  return s.deliveries.any (DeliveryRecord.isTo t)

/-- The turn of the loop for one target. -/
def deliverTarget (t : DeliveryTarget) (calls : TargetCalls) (s : DeliveryState) :
    Except String Unit × DeliveryState :=
  match deliveryRecordExists t calls s with
  | .ok true => (.ok (), s)
  | _ =>
    match deliverAudienceKey c encoding src t calls s with
    | (.ok (), s') => (.ok (), s')
    | (.error e, s') =>
      if t.required then
        (.error ("delivering " ++ t.rolePath ++ " audience key to " ++ t.recipient ++ ": " ++ e), s')
      else (.ok (), s')

/-- The loop; what the calls come to goes by the role path. -/
def deliverTargets (calls : String → TargetCalls) :
    List DeliveryTarget → DeliveryState → Except String Unit × DeliveryState
  | [], s => (.ok (), s)
  | t :: ts, s =>
    match deliverTarget c encoding src t (calls t.rolePath) s with
    | (.error e, s') => (.error e, s')
    | (.ok (), s') => deliverTargets calls ts s'

end Run

def deliverJoinerAudienceKeys (c : Primitives) (encoding : Encoding DeliveryPayload) (a : Approver)
    (src : Option SealedAudienceSource) (calls : String → TargetCalls)
    (memberRecordID memberDID nodeDID : String) (s : DeliveryState) :
    Except String Unit × DeliveryState :=
  if !a.ownerRoot then (.ok (), s)
  else match src with
    | none => (.error "audience source is required for delivery", s)
    | some src =>
      deliverTargets c encoding src calls (deliveryTargets a memberRecordID memberDID nodeDID) s

variable {c : Primitives} {encoding : Encoding DeliveryPayload} {src : SealedAudienceSource}
  {t : DeliveryTarget} {calls : TargetCalls} {s : DeliveryState}

theorem writeDelivery_cases (calls : TargetCalls) (record : DeliveryRecord) (s : DeliveryState) :
    (∃ e, writeDelivery calls record s = (.error e, s)) ∨
      ∃ result, writeDelivery calls record s =
        (result, { s with deliveries := record :: s.deliveries }) := by
  rw [writeDelivery]
  cases calls.write with
  | error e =>
    dsimp only
    split_ifs
    · exact .inr ⟨_, rfl⟩
    · exact .inl ⟨_, rfl⟩
  | ok status =>
    dsimp only
    split_ifs
    · exact .inr ⟨_, rfl⟩
    · exact .inl ⟨_, rfl⟩
    · exact .inr ⟨_, rfl⟩

/-! ### What a target's turn keeps -/

/-- Records are only added, for the target, and the cache only gains the entry of its tuple. -/
structure Grows (c : Primitives) (t : DeliveryTarget) (s s' : DeliveryState) : Prop where
  kept : s.deliveries ⊆ s'.deliveries
  added : ∀ d ∈ s'.deliveries, d ∈ s.deliveries ∨ d.rolePath = t.rolePath
  cached : ∀ k rec, s.cache.lookup k = some rec → s'.cache.lookup k = some rec
  others : ∀ k, k ≠ tupleKey meshProtocolURI t.rolePath t.contextID →
    s'.cache.lookup k = s.cache.lookup k
  filled : SealedAudienceSource.OneLine t.rolePath → SealedAudienceSource.Filled c s.cache →
    SealedAudienceSource.Filled c s'.cache

theorem Grows.refl : Grows c t s s :=
  ⟨List.Subset.refl _, fun _ hd => .inl hd, fun _ _ h => h, fun _ _ => rfl, fun _ h => h⟩

theorem oneLine_meshProtocolURI : SealedAudienceSource.OneLine meshProtocolURI := by
  unfold SealedAudienceSource.OneLine
  decide

theorem rolePath_of_buildDelivery {record : DeliveryRecord}
    (h : buildDelivery c encoding src t calls s = .ok record) :
    record.isTo t = true := by
  simp only [buildDelivery, bind_eq_ok] at h
  obtain ⟨_, -, _, -, _, -, _, -, _, -, hrecord⟩ := h
  obtain rfl := Except.ok.inj hrecord
  simp [DeliveryRecord.isTo]

theorem deliveryRecordExists_iff : deliveryRecordExists t calls s = .ok true ↔
    calls.query = .ok () ∧ ∃ d ∈ s.deliveries, d.isTo t = true := by
  rw [deliveryRecordExists, ← List.any_eq_true]
  cases calls.query with
  | error e => simp
  | ok _ => simp [pure, Except.pure]

section Turn
variable (c encoding src t calls s)

/-- What a call for a target does: it fails, perhaps with more in the cache, or writes its record. -/
theorem deliverAudienceKey_cases :
    (∃ e, deliverAudienceKey c encoding src t calls s = (.error e, s)) ∨
    (∃ e, deliverAudienceKey c encoding src t calls s =
      (.error e, { s with cache := cacheAfter c src t calls s })) ∨
    ∃ record result, buildDelivery c encoding src t calls s = .ok record ∧
      deliverAudienceKey c encoding src t calls s =
        (result, ⟨record :: s.deliveries, cacheAfter c src t calls s⟩) := by
  rw [deliverAudienceKey]
  by_cases hempty : t.recipient = "" ∨ t.rolePath = ""
  · rw [if_pos hempty]
    exact .inl ⟨_, rfl⟩
  · rw [if_neg hempty]
    cases hbuild : buildDelivery c encoding src t calls s with
    | error e => exact .inr (.inl ⟨e, rfl⟩)
    | ok record =>
      dsimp only
      obtain ⟨e, he⟩ | ⟨result, he⟩ :=
        writeDelivery_cases calls record { s with cache := cacheAfter c src t calls s }
      · exact .inr (.inl ⟨e, he⟩)
      · exact .inr (.inr ⟨record, result, rfl, he⟩)

theorem grows_deliverAudienceKey : Grows c t s (deliverAudienceKey c encoding src t calls s).2 := by
  have hcached : ∀ k rec, s.cache.lookup k = some rec →
      (cacheAfter c src t calls s).lookup k = some rec :=
    fun k rec h => SealedAudienceSource.current_keeps calls.mint t.contextID h
  have hothers : ∀ k, k ≠ tupleKey meshProtocolURI t.rolePath t.contextID →
      (cacheAfter c src t calls s).lookup k = s.cache.lookup k :=
    fun k hk => SealedAudienceSource.current_other c src calls.mint s.cache hk
  have hfilled : SealedAudienceSource.OneLine t.rolePath → SealedAudienceSource.Filled c s.cache →
      SealedAudienceSource.Filled c (cacheAfter c src t calls s) :=
    fun hrole h => h.current oneLine_meshProtocolURI hrole calls.mint t.contextID
  obtain ⟨e, he⟩ | ⟨e, he⟩ | ⟨record, result, hbuild, he⟩ :=
    deliverAudienceKey_cases c encoding src t calls s
  · rw [he]
    exact .refl
  · rw [he]
    exact ⟨List.Subset.refl _, fun _ hd => .inl hd, hcached, hothers, hfilled⟩
  · rw [he]
    refine ⟨List.subset_cons_self _ _, fun d hd => ?_, hcached, hothers, hfilled⟩
    rcases List.mem_cons.mp hd with rfl | hd
    · have hto := rolePath_of_buildDelivery hbuild
      simp only [DeliveryRecord.isTo, decide_eq_true_eq] at hto
      exact .inr hto.2.1
    · exact .inl hd

theorem deliverTarget_skip (h : deliveryRecordExists t calls s = .ok true) :
    deliverTarget c encoding src t calls s = (.ok (), s) := by
  rw [deliverTarget, h]

theorem deliverTarget_deliver (h : deliveryRecordExists t calls s ≠ .ok true) :
    (deliverTarget c encoding src t calls s).2 = (deliverAudienceKey c encoding src t calls s).2 ∧
      ((deliverTarget c encoding src t calls s).1 = .ok () ↔
        (deliverAudienceKey c encoding src t calls s).1 = .ok () ∨ t.required = false) := by
  rw [deliverTarget]
  split
  · next hskip => exact absurd hskip h
  · split
    · next s' he =>
      rw [he]
      exact ⟨rfl, by simp⟩
    · next e s' he =>
      rw [he]
      split_ifs with hreq
      · exact ⟨rfl, by simp [hreq]⟩
      · exact ⟨rfl, by simp [hreq]⟩

theorem grows_deliverTarget : Grows c t s (deliverTarget c encoding src t calls s).2 := by
  by_cases hskip : deliveryRecordExists t calls s = .ok true
  · rw [deliverTarget_skip c encoding src t calls s hskip]
    exact .refl
  · rw [(deliverTarget_deliver c encoding src t calls s hskip).1]
    exact grows_deliverAudienceKey c encoding src t calls s

end Turn

/-! ### Deliveries of the current key -/

/-- The record is addressed to the target, has the key ID that `Current` goes on to return for its
tuple, and opens with the recipient's root key to that key. -/
structure DeliversCurrent (c : Primitives) (encoding : Encoding DeliveryPayload)
    (src : SealedAudienceSource) (root : Bytes) (cache : GoMap StoredAudience) (t : DeliveryTarget)
    (d : DeliveryRecord) : Prop where
  isTo : d.isTo t = true
  opens : ∃ pub priv payload,
    (∀ entropy, src.currentKey c entropy cache meshProtocolURI t.rolePath t.contextID =
      .ok (pub, d.keyID)) ∧
    decryptDeliveryRecord c encoding root meshProtocolURI t.rolePath (some d.enc) d.data =
      .ok payload ∧
    payload.keyID = d.keyID ∧ base64URLDecode payload.keyMaterial.privateKeyJwk.d = .ok priv ∧
    priv.length = 32 ∧ c.x25519Base priv = pub

/-- The recipient publishes the key of the role path that it derives from its root key. -/
def PublishesRolePath (c : Primitives) (root : Bytes) (recipientDef : Except String Json)
    (rolePath : String) : Prop :=
  ∀ definition pub keyID, recipientDef = .ok definition →
    keyAgreementPublicKeyAtPath c definition rolePath = .ok (pub, keyID) →
    ∃ rolePriv, deriveRolePathKey c root meshProtocolURI rolePath = .ok rolePriv ∧
      rolePriv.length = 32 ∧ c.x25519Base rolePriv = pub

/-- A recipient that has installed the mesh protocol with its own root key does. -/
theorem publishesRolePath_installed {root : Bytes} {installed : Json}
    (h : injectEncryptionDirectives c (.obj MeshProtocol.definition) root = .ok installed)
    {path : List String} {ruleSet : List (String × Json)} (hp : TypePath path)
    (hrule : descend MeshProtocol.ruleSets path = some ruleSet) :
    PublishesRolePath c root (.ok installed) ("/".intercalate path) ∧
      ∃ pub keyID,
        keyAgreementPublicKeyAtPath c installed ("/".intercalate path) = .ok (pub, keyID) := by
  obtain ⟨output, published, hout, -, -, -, -, hpaths⟩ :=
    injectEncryptionDirectives_publishes (c := c)
      (show Json.field "protocol" MeshProtocol.definition = some (.str meshProtocolURI) from rfl)
      (by decide) rfl MeshProtocol.wellNamed_ruleSets MeshProtocol.smallFields_definition root
  obtain rfl := Except.ok.inj (h.symm.trans hout)
  obtain ⟨after, -, hpublished⟩ := hpaths path ruleSet hp hrule
  have href : Json.field "$ref" ruleSet = none :=
    Option.isNone_iff_eq_none.mp (by simpa using MeshProtocol.field_ref hp hrule)
  obtain ⟨privateKey, -, hjwk, -, hkey⟩ := hpublished.keyed href
  refine ⟨fun definition pub keyID hdef hpub => ?_, _, _, hkey⟩
  obtain rfl := Except.ok.inj hdef
  obtain ⟨rfl, rfl⟩ := Prod.mk.inj (Except.ok.inj (hkey.symm.trans hpub))
  simp only [rolePathPublicKeyJWK, bind_eq_ok, x25519PublicKey_eq_ok] at hjwk
  obtain ⟨rolePriv, hrole, derived, ⟨hlen, rfl⟩, hx⟩ := hjwk
  refine ⟨rolePriv, hrole, hlen, ?_⟩
  exact Base64.rawURLEncode_injective (PublicKeyJWK.mk.inj (Except.ok.inj hx)).2.2

theorem deliversCurrent_of_buildDelivery {record : DeliveryRecord} {root : Bytes}
    {cache : GoMap StoredAudience} (h : buildDelivery c encoding src t calls s = .ok record)
    (hrole : SealedAudienceSource.OneLine t.rolePath) (hfilled : SealedAudienceSource.Filled c s.cache)
    (hpublishes : PublishesRolePath c root calls.recipientDef t.rolePath)
    (hcache : ∀ k rec, (cacheAfter c src t calls s).lookup k = some rec → cache.lookup k = some rec)
    (hthumb : SealedAudienceSource.ThumbprintsDiffer c cache) :
    DeliversCurrent c encoding src root cache t record := by
  refine ⟨rolePath_of_buildDelivery h, ?_⟩
  simp only [buildDelivery, bind_eq_ok, mapError_eq_ok] at h
  obtain ⟨⟨pub, keyID⟩, hcurrent, priv, hpriv, definition, hdef, ⟨rolePub, roleKeyID⟩, hpath,
    ⟨data, enc⟩, hencrypt, hrecord⟩ := h
  obtain rfl := Except.ok.inj hrecord
  rw [SealedAudienceSource.currentKey_eq, bind_eq_ok] at hcurrent
  obtain ⟨rec, hrec, hkey⟩ := hcurrent
  have hlookup := SealedAudienceSource.lookup_current hrec
  have hfor := (hfilled.current oneLine_meshProtocolURI hrole calls.mint t.contextID).isFor
    oneLine_meshProtocolURI hrole hlookup
  have hthumb' : SealedAudienceSource.ThumbprintsDiffer c (cacheAfter c src t calls s) := by
    have hvalues : ∀ r ∈ (cacheAfter c src t calls s).values, r ∈ cache.values := by
      intro r hr
      obtain ⟨k, hk⟩ := GoMap.mem_values.mp hr
      exact GoMap.mem_values.mpr ⟨k, hcache k r hk⟩
    exact fun r hr r' hr' => hthumb r (hvalues r hr) r' (hvalues r' hr')
  obtain ⟨hlen, hbase, hid⟩ :=
    SealedAudienceSource.privateKey_of_cached hlookup hfor hthumb' hkey hpriv
  obtain ⟨rolePriv, hderive, hrolelen, rfl⟩ := hpublishes _ _ _ hdef hpath
  have hverified : verifyRoleAudienceKeyMaterial c
      (keyPayload t.rolePath t.contextID pub keyID priv).keyMaterial = .ok () := by
    refine verifyRoleAudienceKeyMaterial_eq_ok.mpr ⟨rfl, rfl, verifyX25519KeyMaterial_eq_ok.mpr
      ⟨priv, base64URLDecode_rawURLEncode _, hlen, ?_, ?_⟩⟩
    · rw [hbase]
      rfl
    · rw [hbase]
      exact hid
  refine ⟨pub, priv, keyPayload t.rolePath t.contextID pub keyID priv, fun entropy => ?_, ?_, rfl,
    base64URLDecode_rawURLEncode _, hlen, hbase⟩
  · rw [SealedAudienceSource.currentKey_cached (hcache _ _ hlookup)]
    exact hkey
  · -- the payload is given here, since it cannot be found from its protocol and role path
    have hopen : decryptDeliveryRecord c encoding root
        (keyPayload t.rolePath t.contextID pub keyID priv).protocol
        (keyPayload t.rolePath t.contextID pub keyID priv).rolePath (some enc) data =
          .ok (keyPayload t.rolePath t.contextID pub keyID priv) :=
      decryptDeliveryRecord_encryptData hderive hrolelen rfl hverified hencrypt
    exact hopen

/-! ### Whole runs -/

section Runs
variable {calls : String → TargetCalls} {targets : List DeliveryTarget}

theorem deliverTargets_keeps (c : Primitives) (encoding : Encoding DeliveryPayload)
    (src : SealedAudienceSource) (calls : String → TargetCalls) (targets : List DeliveryTarget)
    (s : DeliveryState) :
    s.deliveries ⊆ (deliverTargets c encoding src calls targets s).2.deliveries ∧
      ∀ k rec, s.cache.lookup k = some rec →
        (deliverTargets c encoding src calls targets s).2.cache.lookup k = some rec := by
  induction targets generalizing s with
  | nil => exact ⟨List.Subset.refl _, fun _ _ h => h⟩
  | cons t ts ih =>
    have hturn := grows_deliverTarget c encoding src t (calls t.rolePath) s
    rw [deliverTargets]
    split
    · next e s' he =>
      rw [he] at hturn
      exact ⟨hturn.kept, hturn.cached⟩
    · next s' he =>
      rw [he] at hturn
      obtain ⟨hkept, hcached⟩ := ih s'
      exact ⟨List.Subset.trans hturn.kept hkept, fun k rec h => hcached k rec (hturn.cached k rec h)⟩

/-- In a run that goes through, every required target had a delivery at the start, or gets one of
the current key. -/
theorem deliverTargets_required {roots : String → Bytes}
    (hpaths : (targets.map (·.rolePath)).Nodup)
    (hlines : ∀ t ∈ targets, SealedAudienceSource.OneLine t.rolePath) {s : DeliveryState}
    (hfilled : SealedAudienceSource.Filled c s.cache)
    (hok : (deliverTargets c encoding src calls targets s).1 = .ok ())
    (hpublishes : ∀ t ∈ targets, t.required = true →
      PublishesRolePath c (roots t.recipient) (calls t.rolePath).recipientDef t.rolePath)
    (hthumb : SealedAudienceSource.ThumbprintsDiffer c
      (deliverTargets c encoding src calls targets s).2.cache)
    {t : DeliveryTarget} (ht : t ∈ targets) (hreq : t.required = true) :
    (calls t.rolePath).query = .ok () ∧ (∃ d ∈ s.deliveries, d.isTo t = true) ∨
    ∃ d ∈ (deliverTargets c encoding src calls targets s).2.deliveries,
      DeliversCurrent c encoding src (roots t.recipient)
        (deliverTargets c encoding src calls targets s).2.cache t d := by
  induction targets generalizing s with
  | nil => cases ht
  | cons first rest ih =>
    have hturn := grows_deliverTarget c encoding src first (calls first.rolePath) s
    rw [List.map_cons, List.nodup_cons] at hpaths
    rw [deliverTargets] at hok hthumb ⊢
    cases hfirst : deliverTarget c encoding src first (calls first.rolePath) s with
    | mk result s' =>
    rw [hfirst] at hok hthumb hturn
    cases result with
    | error e => cases hok
    | ok _ =>
    dsimp only at hok hthumb hturn ⊢
    have hrun := deliverTargets_keeps c encoding src calls rest s'
    rcases List.mem_cons.mp ht with rfl | hrest
    · -- the target's own turn
      by_cases hskip : deliveryRecordExists t (calls t.rolePath) s = .ok true
      · exact .inl (deliveryRecordExists_iff.mp hskip)
      · obtain ⟨hstate, hresult⟩ := deliverTarget_deliver c encoding src t (calls t.rolePath) s hskip
        rw [hfirst] at hstate hresult
        have hdelivered := (hresult.mp rfl).resolve_right (by simp [hreq])
        obtain ⟨e, he⟩ | ⟨e, he⟩ | ⟨record, result, hbuild, he⟩ :=
          deliverAudienceKey_cases c encoding src t (calls t.rolePath) s
        · rw [he] at hdelivered
          cases hdelivered
        · rw [he] at hdelivered
          cases hdelivered
        · rw [he] at hstate
          subst hstate
          exact .inr ⟨record, hrun.1 List.mem_cons_self,
            deliversCurrent_of_buildDelivery hbuild (hlines t List.mem_cons_self) hfilled
              (hpublishes t List.mem_cons_self hreq) hrun.2 hthumb⟩
    · -- a later turn, whose query sees what the first one added
      have hlater := ih hpaths.2 (fun t' ht' => hlines t' (List.mem_cons_of_mem _ ht'))
        (hturn.filled (hlines first List.mem_cons_self) hfilled) hok
        (fun t' ht' => hpublishes t' (List.mem_cons_of_mem _ ht')) hthumb hrest
      refine hlater.imp_left fun ⟨hquery, d, hd, hto⟩ => ⟨hquery, d, ?_, hto⟩
      refine (hturn.added d hd).resolve_right fun hpath => hpaths.1 ?_
      simp only [DeliveryRecord.isTo, decide_eq_true_eq] at hto
      rw [← hpath, hto.2.1]
      exact List.mem_map_of_mem hrest

/-- A target that has a delivery is passed over: the run adds no record for it, and does not touch
its entry in the cache. -/
theorem deliverTargets_skips (c : Primitives) (encoding : Encoding DeliveryPayload)
    (src : SealedAudienceSource) {t : DeliveryTarget} (hline : SealedAudienceSource.OneLine t.rolePath)
    (hlines : ∀ t' ∈ targets, SealedAudienceSource.OneLine t'.rolePath)
    (honly : ∀ t' ∈ targets, t'.rolePath = t.rolePath → t' = t) {s : DeliveryState}
    (hquery : (calls t.rolePath).query = .ok ()) (hfound : ∃ d ∈ s.deliveries, d.isTo t = true) :
    (∀ d ∈ (deliverTargets c encoding src calls targets s).2.deliveries, d.isTo t = true →
      d ∈ s.deliveries) ∧
    (deliverTargets c encoding src calls targets s).2.cache.lookup
      (tupleKey meshProtocolURI t.rolePath t.contextID) =
        s.cache.lookup (tupleKey meshProtocolURI t.rolePath t.contextID) := by
  induction targets generalizing s with
  | nil => exact ⟨fun d hd _ => hd, rfl⟩
  | cons first rest ih =>
    rw [List.forall_mem_cons] at hlines honly
    have hturn := grows_deliverTarget c encoding src first (calls first.rolePath) s
    have hsame : (∀ d ∈ (deliverTarget c encoding src first (calls first.rolePath) s).2.deliveries,
        d.isTo t = true → d ∈ s.deliveries) ∧
        (deliverTarget c encoding src first (calls first.rolePath) s).2.cache.lookup
          (tupleKey meshProtocolURI t.rolePath t.contextID) =
            s.cache.lookup (tupleKey meshProtocolURI t.rolePath t.contextID) := by
      by_cases hpath : first.rolePath = t.rolePath
      · -- its own turn
        obtain rfl := honly.1 hpath
        rw [deliverTarget_skip c encoding src first _ s
          (deliveryRecordExists_iff.mpr ⟨hquery, hfound⟩)]
        exact ⟨fun d hd _ => hd, rfl⟩
      · refine ⟨fun d hd hto => (hturn.added d hd).resolve_right fun hd => hpath ?_,
          hturn.others _ fun hkey => hpath ?_⟩
        · simp only [DeliveryRecord.isTo, decide_eq_true_eq] at hto
          rw [← hd, hto.2.1]
        · exact (SealedAudienceSource.tupleKey_injective oneLine_meshProtocolURI
            oneLine_meshProtocolURI hline hlines.1 hkey).2.symm
    rw [deliverTargets]
    cases hfirst : deliverTarget c encoding src first (calls first.rolePath) s with
    | mk result s' =>
    rw [hfirst] at hsame hturn
    cases result with
    | error e => exact hsame
    | ok _ =>
      obtain ⟨d, hd, hto⟩ := hfound
      obtain ⟨hdeliveries, hcache⟩ := ih hlines.2 honly.2 ⟨d, hturn.kept hd, hto⟩
      exact ⟨fun d hd hto => hsame.1 d (hdeliveries d hd hto) hto, hcache.trans hsame.2⟩

end Runs

/-! ### The approver's view -/

/-- What the approver's model keeps of a delivery record. -/
def DeliveryRecord.tuple (d : DeliveryRecord) : String × String × String :=
  (d.rolePath, d.contextID, d.recipient)

theorem isTo_iff {d : DeliveryRecord} : d.isTo t = true ↔ d.tuple = t.record := by
  simp only [DeliveryRecord.isTo, DeliveryRecord.tuple, DeliveryTarget.record, Prod.mk.injEq,
    decide_eq_true_eq]
  tauto

variable (c encoding src t calls s) in
/-- How the call for a target ends: it may have written its record or not. -/
theorem exists_outcome :
    ∃ outcome : CallOutcome,
      (outcome = .ok ↔ (deliverAudienceKey c encoding src t calls s).1 = .ok ()) ∧
      (deliverAudienceKey c encoding src t calls s).2.deliveries.map DeliveryRecord.tuple =
        if outcome.carriedOut then t.record :: s.deliveries.map DeliveryRecord.tuple
        else s.deliveries.map DeliveryRecord.tuple := by
  obtain ⟨e, he⟩ | ⟨e, he⟩ | ⟨record, result, hbuild, he⟩ :=
    deliverAudienceKey_cases c encoding src t calls s
  · exact ⟨.failed, by simp [he], by simp [he, CallOutcome.carriedOut]⟩
  · exact ⟨.failed, by simp [he], by simp [he, CallOutcome.carriedOut]⟩
  · have htuple := isTo_iff.mp (rolePath_of_buildDelivery hbuild)
    cases result with
    | ok _ => exact ⟨.ok, by simp [he], by simp [he, CallOutcome.carriedOut, htuple]⟩
    | error e => exact ⟨.lost, by simp [he], by simp [he, CallOutcome.carriedOut, htuple]⟩

theorem deliverTargets_congr (calls calls' : RequestCalls) {targets : List DeliveryTarget}
    (hquery : calls.deliveryQuery = calls'.deliveryQuery)
    (h : ∀ t ∈ targets, calls.delivery t.rolePath = calls'.delivery t.rolePath) (anchor : Anchor) :
    Mesh.deliverTargets calls anchor targets = Mesh.deliverTargets calls' anchor targets := by
  induction targets generalizing anchor with
  | nil => rfl
  | cons t ts ih =>
    have hrest := ih fun t' ht' => h t' (List.mem_cons_of_mem _ ht')
    simp only [Mesh.deliverTargets, hquery, h t List.mem_cons_self, hrest]

theorem deliverTargets_skip {calls : RequestCalls} {anchor : Anchor}
    (h : calls.deliveryQuery t.rolePath = true ∧ t.record ∈ anchor.deliveries)
    (ts : List DeliveryTarget) :
    Mesh.deliverTargets calls anchor (t :: ts) = Mesh.deliverTargets calls anchor ts := by
  rw [Mesh.deliverTargets]
  exact if_pos h

/-- The anchor after a delivery with some outcome. -/
def afterDelivery (outcome : CallOutcome) (t : DeliveryTarget) (anchor : Anchor) : Anchor :=
  if outcome.carriedOut then { anchor with deliveries := t.record :: anchor.deliveries } else anchor

theorem deliverTargets_deliver (calls : RequestCalls) {anchor : Anchor} {outcome : CallOutcome}
    (h : ¬ (calls.deliveryQuery t.rolePath = true ∧ t.record ∈ anchor.deliveries))
    (houtcome : calls.delivery t.rolePath = outcome) (ts : List DeliveryTarget) :
    Mesh.deliverTargets calls anchor (t :: ts) =
      if outcome ≠ .ok ∧ t.required = true then (afterDelivery outcome t anchor, false)
      else Mesh.deliverTargets calls (afterDelivery outcome t anchor) ts := by
  subst houtcome
  rw [Mesh.deliverTargets]
  exact if_neg h

/-- The approver's calls, with the queries of a run and some outcomes of its deliveries. -/
def requestCalls (base : RequestCalls) (calls : String → TargetCalls)
    (delivery : String → CallOutcome) : RequestCalls :=
  { base with deliveryQuery := fun rolePath => (calls rolePath).query.isOk, delivery }

/-- The loop is the approver's, for some outcomes of the deliveries. -/
theorem deliverTargets_refines (base : RequestCalls) (calls : String → TargetCalls)
    {targets : List DeliveryTarget} (hpaths : (targets.map (·.rolePath)).Nodup) (anchor : Anchor)
    (s : DeliveryState) (hanchor : anchor.deliveries = s.deliveries.map DeliveryRecord.tuple) :
    ∃ delivery : String → CallOutcome,
      (Mesh.deliverTargets (requestCalls base calls delivery) anchor targets).1.deliveries =
        (deliverTargets c encoding src calls targets s).2.deliveries.map DeliveryRecord.tuple ∧
      (Mesh.deliverTargets (requestCalls base calls delivery) anchor targets).2 =
        (deliverTargets c encoding src calls targets s).1.isOk := by
  induction targets generalizing anchor s with
  | nil => exact ⟨fun _ => .ok, hanchor, rfl⟩
  | cons t ts ih =>
    rw [List.map_cons, List.nodup_cons] at hpaths
    have hseen : ((calls t.rolePath).query.isOk = true ∧ t.record ∈ anchor.deliveries) ↔
        deliveryRecordExists t (calls t.rolePath) s = .ok true := by
      rw [hanchor, deliveryRecordExists_iff, List.mem_map]
      simp only [isTo_iff]
      cases (calls t.rolePath).query <;> simp [Except.isOk, Except.toBool]
    rw [deliverTargets]
    by_cases hskip : deliveryRecordExists t (calls t.rolePath) s = .ok true
    · obtain ⟨delivery, hdelivery⟩ := ih hpaths.2 anchor s hanchor
      refine ⟨delivery, ?_⟩
      rw [deliverTarget_skip c encoding src t _ s hskip, deliverTargets_skip (hseen.mpr hskip)]
      exact hdelivery
    · obtain ⟨outcome, hok, hwritten⟩ := exists_outcome c encoding src t (calls t.rolePath) s
      obtain ⟨hstate, hresult⟩ := deliverTarget_deliver c encoding src t (calls t.rolePath) s hskip
      rw [← hok] at hresult
      have hafter : (afterDelivery outcome t anchor).deliveries =
          (deliverTarget c encoding src t (calls t.rolePath) s).2.deliveries.map
            DeliveryRecord.tuple := by
        rw [hstate, hwritten, ← hanchor, afterDelivery]
        split_ifs
        · rfl
        · rfl
      cases hturn : deliverTarget c encoding src t (calls t.rolePath) s with
      | mk result s' =>
      rw [hturn] at hafter hresult
      cases result with
      | error e =>
        refine ⟨fun _ => outcome, ?_⟩
        have hstop : outcome ≠ .ok ∧ t.required = true := by simpa using hresult
        rw [deliverTargets_deliver (requestCalls base calls fun _ => outcome) (mt hseen.mp hskip)
          (show _ = outcome from rfl), if_pos hstop]
        exact ⟨hafter, rfl⟩
      | ok _ =>
        obtain ⟨delivery, hdelivery⟩ := ih hpaths.2 (afterDelivery outcome t anchor) s' hafter
        let delivery' := Function.update delivery t.rolePath outcome
        have hthis : delivery' t.rolePath = outcome := Function.update_self ..
        -- the later turns do not read the outcome of this one
        have hlater : Mesh.deliverTargets (requestCalls base calls delivery')
            (afterDelivery outcome t anchor) ts =
            Mesh.deliverTargets (requestCalls base calls delivery)
              (afterDelivery outcome t anchor) ts := by
          refine deliverTargets_congr (requestCalls base calls delivery')
            (requestCalls base calls delivery) rfl (fun t' ht' => ?_) _
          refine Function.update_of_ne (fun he => hpaths.1 ?_) _ _
          rw [← he]
          exact List.mem_map_of_mem ht'
        have hgoes : ¬ (outcome ≠ .ok ∧ t.required = true) := by
          simpa [or_iff_not_imp_left] using hresult
        refine ⟨delivery', ?_⟩
        rw [deliverTargets_deliver (requestCalls base calls delivery') (mt hseen.mp hskip) hthis,
          if_neg hgoes, hlater]
        exact hdelivery

theorem deliverJoinerAudienceKeys_owner {a : Approver} (hroot : a.ownerRoot = true)
    (calls : String → TargetCalls) (memberRecordID memberDID nodeDID : String) (s : DeliveryState) :
    deliverJoinerAudienceKeys c encoding a (some src) calls memberRecordID memberDID nodeDID s =
      deliverTargets c encoding src calls (deliveryTargets a memberRecordID memberDID nodeDID) s := by
  rw [deliverJoinerAudienceKeys, hroot]
  rfl

/-- The targets have different role paths, of one line each. -/
theorem rolePaths_deliveryTargets (a : Approver) (memberRecordID memberDID nodeDID : String) :
    ((deliveryTargets a memberRecordID memberDID nodeDID).map (·.rolePath)).Nodup ∧
      ∀ t ∈ deliveryTargets a memberRecordID memberDID nodeDID,
        SealedAudienceSource.OneLine t.rolePath := by
  rw [deliveryTargets]
  unfold SealedAudienceSource.OneLine
  split_ifs
  · simp
  · simp

theorem DeliversCurrent.congr {root : Bytes} {cache cache' : GoMap StoredAudience}
    {d : DeliveryRecord} (h : DeliversCurrent c encoding src root cache t d)
    (hcache : cache.lookup (tupleKey meshProtocolURI t.rolePath t.contextID) =
      cache'.lookup (tupleKey meshProtocolURI t.rolePath t.contextID)) :
    DeliversCurrent c encoding src root cache' t d := by
  obtain ⟨pub, priv, payload, hcurrent, hopens⟩ := h.opens
  refine ⟨h.isTo, pub, priv, payload, fun entropy => ?_, hopens⟩
  rw [← SealedAudienceSource.currentKey_congr hcache]
  exact hcurrent entropy

/-- After a run that goes through, every required target has a delivery of the current key, in a
record that the recipient opens, exactly if the targets whose queries find a delivery had one of the
key that was current before the run. The recipients publish the keys that they derive. -/
theorem delivery_follows_current {c : Primitives} {encoding : Encoding DeliveryPayload}
    {a : Approver} {src : SealedAudienceSource} {calls : String → TargetCalls}
    {memberRecordID memberDID nodeDID : String} {s after : DeliveryState} (roots : String → Bytes)
    (hrun : deliverJoinerAudienceKeys c encoding a (some src) calls memberRecordID memberDID nodeDID s =
      (.ok (), after))
    (hroot : a.ownerRoot = true) (hfilled : SealedAudienceSource.Filled c s.cache)
    (hthumb : SealedAudienceSource.ThumbprintsDiffer c after.cache)
    (hpublishes : ∀ t ∈ deliveryTargets a memberRecordID memberDID nodeDID, t.required = true →
      PublishesRolePath c (roots t.recipient) (calls t.rolePath).recipientDef t.rolePath) :
    (∀ t ∈ deliveryTargets a memberRecordID memberDID nodeDID, t.required = true →
      ∃ d ∈ after.deliveries,
        DeliversCurrent c encoding src (roots t.recipient) after.cache t d) ↔
    ∀ t ∈ deliveryTargets a memberRecordID memberDID nodeDID, t.required = true →
      (calls t.rolePath).query = .ok () → (∃ d ∈ s.deliveries, d.isTo t = true) →
        ∃ d ∈ s.deliveries, DeliversCurrent c encoding src (roots t.recipient) s.cache t d := by
  rw [deliverJoinerAudienceKeys_owner hroot] at hrun
  obtain ⟨hpaths, hlines⟩ := rolePaths_deliveryTargets a memberRecordID memberDID nodeDID
  have hskips {t : DeliveryTarget} (ht : t ∈ deliveryTargets a memberRecordID memberDID nodeDID)
      (hquery : (calls t.rolePath).query = .ok ()) (hfound : ∃ d ∈ s.deliveries, d.isTo t = true) :=
    deliverTargets_skips c encoding src (hlines t ht) hlines
      (fun t' ht' hpath => List.inj_on_of_nodup_map hpaths ht' ht hpath) hquery hfound
  rw [hrun] at hskips
  constructor
  · intro hall t ht hreq hquery hfound
    obtain ⟨hdeliveries, hcache⟩ := hskips ht hquery hfound
    obtain ⟨d, hd, hcurrent⟩ := hall t ht hreq
    exact ⟨d, hdeliveries d hd hcurrent.isTo, hcurrent.congr hcache⟩
  · intro hearlier t ht hreq
    have hok : (deliverTargets c encoding src calls
        (deliveryTargets a memberRecordID memberDID nodeDID) s).1 = .ok () := by rw [hrun]
    have hkeeps := deliverTargets_keeps c encoding src calls
      (deliveryTargets a memberRecordID memberDID nodeDID) s
    have hdone := deliverTargets_required hpaths hlines hfilled hok hpublishes (hrun ▸ hthumb) ht hreq
    rw [hrun] at hdone hkeeps
    obtain ⟨hquery, hfound⟩ | hcurrent := hdone
    · obtain ⟨d, hd, hcurrent⟩ := hearlier t ht hreq hquery hfound
      exact ⟨d, hkeeps.1 hd, hcurrent.congr (hskips ht hquery hfound).2.symm⟩
    · exact hcurrent

/-! ### A node that joins -/

open Meshd.Control (publicKeyBytesFromJWK)

/-- A node joins the home network for itself. -/
theorem homeTargets : deliveryTargets Anchor.homeApprover "" "" "did:jwk:alice" =
    [⟨"network/node", "did:jwk:alice", "bafy-network", true⟩] := by
  simp [deliveryTargets, Anchor.homeApprover]

/-- A source with one record for the nodes of the home network, which its seal key 1 opens. -/
theorem exists_nodeSource : ∃ (src : SealedAudienceSource) (rec : StoredAudience) (key : Bytes),
    rec.key = .ok (Primitives.transparent.x25519Base key, rec.payload.keyID) ∧
    (∀ entropy, src.current .transparent entropy ∅ meshProtocolURI "network/node" "bafy-network" =
      (.ok rec, AList.insert (tupleKey meshProtocolURI "network/node" "bafy-network") rec ∅)) ∧
    src.audiencePrivateKeyByKeyID .transparent
      (AList.insert (tupleKey meshProtocolURI "network/node" "bafy-network") rec ∅) meshProtocolURI
      "network/node" rec.payload.keyID = .ok key := by
  obtain ⟨km, -, -, hverified⟩ :=
    generateAudienceKey_ok (c := .transparent) ⟨List.replicate 32 5, rfl⟩
  have hshared : Primitives.transparent.x25519 (⟨List.replicate 32 2, rfl⟩ : Buffer 32).val
      (Primitives.transparent.x25519Base (List.replicate 32 1)) = some _ := rfl
  obtain ⟨payload, hbuilt⟩ := exists_buildAudiencePayload hverified rfl hshared meshProtocolURI
    "network/node" "bafy-network"
  obtain ⟨key, -, hseals, hprotocol, hrole, hcontext⟩ := buildAudiencePayload_eq_ok hbuilt
  have hne : payload.rolePath ≠ "" := by rw [hrole]; decide
  let stored : StoredAudience :=
    ⟨payload, "bafy-1", "2026-01-01T00:00:00.000000Z", "did:dht:owner"⟩
  have hrecords : (listed [stored]).tupleRecords .transparent meshProtocolURI "network/node"
      "bafy-network" [[0]] = [stored] :=
    parseAll_cons (parseAudienceEntry_listing rfl (hseals.verified hne))
      (by simp [stored, hprotocol, hrole, hcontext]) []
  refine ⟨(listed [stored]).answering [[0]], stored, key, ?_, fun entropy => ?_, ?_⟩
  · rw [StoredAudience.key_eq_ok]
    refine ⟨?_, rfl⟩
    change publicKeyBytesFromJWK payload.publicKeyJwk = _
    rw [hseals.publicKeyJwk]
    exact publicKeyBytesFromJWK_publicJWK hseals.length
  · have hcurrent : (((listed [stored]).answering [[0]]).current .transparent entropy ∅
        meshProtocolURI "network/node" "bafy-network").1 = .ok stored := by
      rw [SealedAudienceSource.current_answering (by simp [hrecords]), AList.lookup_empty, hrecords]
      rfl
    obtain ⟨rec, hcached, -⟩ | ⟨rec, -, -, he⟩ | ⟨e, he⟩ := SealedAudienceSource.current_cases
      .transparent ((listed [stored]).answering [[0]]) meshProtocolURI "network/node" entropy ∅
      "bafy-network"
    · simp at hcached
    · rw [he] at hcurrent ⊢
      rw [Except.ok.inj hcurrent]
    · rw [he] at hcurrent
      cases hcurrent
  · have hfound : ((listed [stored]).answering [[0]]).audienceByKeyID .transparent
        (AList.insert (tupleKey meshProtocolURI "network/node" "bafy-network") stored ∅)
        meshProtocolURI "network/node" stored.payload.keyID = .ok stored := by
      have hvalues : GoMap.values (AList.insert (tupleKey meshProtocolURI "network/node"
        "bafy-network") stored ∅) = [stored] := rfl
      rw [SealedAudienceSource.audienceByKeyID, hvalues,
        List.find?_cons_of_pos (by simp [stored, hprotocol, hrole])]
    rw [SealedAudienceSource.audiencePrivateKeyByKeyID]
    change (SealedAudienceSource.audienceByKeyID _ _ _ _ _ _ >>= _) = _
    rw [hfound, ok_bind]
    exact hseals.opens hne rfl rfl

/-- A node that joins the home network for itself gets the current key. -/
theorem delivery_follows_current_alice : ∃ (src : SealedAudienceSource)
    (calls : String → TargetCalls) (after : DeliveryState),
    deliverJoinerAudienceKeys .transparent DeliveryPayload.encoding Anchor.homeApprover (some src)
      calls "" "" "did:jwk:alice" ⟨[], ∅⟩ = (.ok (), after) ∧
    ∃ d ∈ after.deliveries, DeliversCurrent .transparent DeliveryPayload.encoding src
      (List.replicate 32 7) after.cache ⟨"network/node", "did:jwk:alice", "bafy-network", true⟩ d := by
  obtain ⟨src, rec, key, hkey, hcurrent, hpriv⟩ := exists_nodeSource
  obtain ⟨installed, hinst⟩ := exists_installed .transparent (List.replicate 32 7)
  have hpath : TypePath ["network", "node"] := ⟨by decide, by decide⟩
  have hname : "/".intercalate ["network", "node"] = "network/node" := by decide
  obtain ⟨hpublishes, pub, keyID, hpub⟩ := publishesRolePath_installed hinst hpath rfl
  rw [hname] at hpublishes hpub
  have hpublen : pub.length = 32 := by
    obtain ⟨rolePriv, -, hlen, rfl⟩ := hpublishes _ _ _ rfl hpub
    exact hlen
  let target : DeliveryTarget := ⟨"network/node", "did:jwk:alice", "bafy-network", true⟩
  let payload := keyPayload "network/node" "bafy-network" (Primitives.transparent.x25519Base key)
    rec.payload.keyID key
  have hshared : Primitives.transparent.x25519 (⟨List.replicate 32 2, rfl⟩ : Buffer 32).val pub =
      some _ := rfl
  obtain ⟨ct, enc, hencrypt, -⟩ := exists_encryptData ⟨List.replicate 32 6, rfl⟩
    ⟨List.replicate 16 7, rfl⟩ hpublen hshared (DeliveryPayload.encoding.marshal payload)
  let calls : TargetCalls :=
    { mint := ⟨.error "EOF", .error "EOF"⟩
      recipientDef := .ok installed
      entropy := ⟨.ok ⟨List.replicate 32 6, rfl⟩, .ok ⟨List.replicate 16 7, rfl⟩,
        fun _ => .ok ⟨List.replicate 32 2, rfl⟩⟩ }
  have hcache : cacheAfter .transparent src target calls ⟨[], ∅⟩ =
      AList.insert (tupleKey meshProtocolURI "network/node" "bafy-network") rec ∅ := by
    rw [cacheAfter, hcurrent]
  have hbuild : buildDelivery .transparent DeliveryPayload.encoding src target calls ⟨[], ∅⟩ =
      .ok ⟨"did:jwk:alice", "network/node", "bafy-network", rec.payload.keyID, enc, ct⟩ := by
    have hcurrentKey : src.currentKey .transparent calls.mint ∅ meshProtocolURI "network/node"
        "bafy-network" = .ok (Primitives.transparent.x25519Base key, rec.payload.keyID) := by
      rw [SealedAudienceSource.currentKey_eq, hcurrent, ok_bind, hkey]
    rw [buildDelivery, hcurrentKey, mapError_ok, ok_bind]
    dsimp only
    rw [hcache, hpriv, mapError_ok, ok_bind, mapError_ok, ok_bind, hpub, mapError_ok, ok_bind]
    dsimp only
    rw [hencrypt, mapError_ok, ok_bind]
    rfl
  let record : DeliveryRecord :=
    ⟨"did:jwk:alice", "network/node", "bafy-network", rec.payload.keyID, enc, ct⟩
  let cache : GoMap StoredAudience :=
    AList.insert (tupleKey meshProtocolURI "network/node" "bafy-network") rec ∅
  have hdeliver : deliverAudienceKey .transparent DeliveryPayload.encoding src target calls ⟨[], ∅⟩ =
      (.ok (), ⟨[record], cache⟩) := by
    rw [deliverAudienceKey, if_neg (by simp [target]), hbuild, hcache]
    rfl
  have hrun : deliverJoinerAudienceKeys .transparent DeliveryPayload.encoding Anchor.homeApprover
      (some src) (fun _ => calls) "" "" "did:jwk:alice" ⟨[], ∅⟩ = (.ok (), ⟨[record], cache⟩) := by
    have hskip : deliveryRecordExists target calls ⟨[], ∅⟩ = .ok false := rfl
    rw [deliverJoinerAudienceKeys_owner rfl, homeTargets, deliverTargets, deliverTarget, hskip,
      hdeliver]
    rfl
  have hmem : target ∈ deliveryTargets Anchor.homeApprover "" "" "did:jwk:alice" := by
    rw [homeTargets]
    exact List.mem_cons_self
  have honly : ∀ r ∈ cache.values, r = rec := fun r hr => List.mem_singleton.mp hr
  refine ⟨src, fun _ => calls, ⟨[record], cache⟩, hrun, (delivery_follows_current
    (fun _ => List.replicate 32 7) hrun rfl SealedAudienceSource.filled_empty ?_ ?_).mpr ?_ target
    hmem rfl⟩
  · intro r hr r' hr' _
    rw [honly r hr, honly r' hr']
  · intro t ht _
    rw [homeTargets] at ht
    obtain rfl := List.mem_singleton.mp ht
    exact hpublishes
  · rintro t _ _ _ ⟨d, hd, -⟩
    cases hd

/-! ### A rotation -/

/-- An audience payload for the nodes of the home network. -/
def nodePayload (byte : UInt8) : AudiencePayload :=
  { fivePayload with
    protocol := meshProtocolURI
    contextID := "bafy-network"
    keyID := thumbprintForPublicKey taggedCiphers (List.replicate 32 byte)
    publicKeyJwk := publicJWK (List.replicate 32 byte) }

def delegateRecord : StoredAudience :=
  ⟨nodePayload 3, "bafy-1", "2026-01-01T00:00:00.000000Z", "did:jwk:delegate"⟩

def ownerRecord : StoredAudience :=
  ⟨nodePayload 5, "bafy-2", "2026-02-01T00:00:00.000000Z", "did:dht:owner"⟩

/-- A record that a delegate wrote, and one of the owner's a month later. -/
def rotation : List StoredAudience := [delegateRecord, ownerRecord]

theorem projectCurrent_rotation : projectCurrent rotation "did:dht:owner" = some ownerRecord := by
  have hbefore : ownerRecord.toRecord.before "did:dht:owner" delegateRecord.toRecord = true := by
    decide +kernel
  simp [projectCurrent, rotation, List.insertionSort, List.orderedInsert, hbefore]

theorem nodePayload_verified (byte : UInt8) :
    verifyAudiencePayload taggedCiphers (nodePayload byte) = .ok () :=
  verifyAudiencePayload_eq_ok.mpr
    ⟨by simp [nodePayload, fivePayload], rfl, rfl, Base64.rawURLEncode_ne_empty (by simp), rfl, rfl⟩

theorem parse_rotation {i : UInt8} {rec : StoredAudience} (h : rotation[i.toNat]? = some rec)
    (entries : List Bytes) :
    (listed rotation).tupleRecords taggedCiphers meshProtocolURI "network/node" "bafy-network"
      ([i] :: entries) = rec :: (listed rotation).tupleRecords taggedCiphers meshProtocolURI
        "network/node" "bafy-network" entries := by
  have hrec : ∃ byte, rec.payload = nodePayload byte := by
    rcases List.mem_cons.mp (List.mem_of_getElem? h) with rfl | hmem
    · exact ⟨3, rfl⟩
    · obtain rfl := List.mem_singleton.mp hmem
      exact ⟨5, rfl⟩
  obtain ⟨byte, hpayload⟩ := hrec
  refine parseAll_cons (parseAudienceEntry_listing h ?_) ?_ entries
  · rw [hpayload]
    exact nodePayload_verified byte
  · rw [hpayload]
    simp [nodePayload, fivePayload]

/-- What the query for the joiner finds is the delivery of the delegate's key. -/
def deliveredBefore : DeliveryState where
  deliveries := [⟨"did:jwk:alice", "network/node", "bafy-network",
    thumbprintForPublicKey taggedCiphers (List.replicate 32 3), ⟨encA256CTR, "", []⟩, []⟩]
  cache := ∅

/-- Calls that have no use for the recipient or for entropy. -/
def idleCalls (_ : String) : TargetCalls where
  mint := ⟨.error "EOF", .error "EOF"⟩
  recipientDef := .error "not found"
  entropy := ⟨.error "EOF", .error "EOF", fun _ => .error "EOF"⟩

/-- The key of the home network's nodes, when the server returns some of the records. -/
theorem currentKey_rotation {entries : List Bytes} {rec : StoredAudience} {byte : UInt8}
    (hrec : projectCurrent ((listed rotation).tupleRecords taggedCiphers meshProtocolURI
      "network/node" "bafy-network" entries) "did:dht:owner" = some rec)
    (hpayload : rec.payload = nodePayload byte) (entropy : MintEntropy) :
    ((listed rotation).answering entries).currentKey taggedCiphers entropy ∅ meshProtocolURI
      "network/node" "bafy-network" = .ok (List.replicate 32 byte,
        thumbprintForPublicKey taggedCiphers (List.replicate 32 byte)) := by
  have hne : (listed rotation).tupleRecords taggedCiphers meshProtocolURI "network/node"
      "bafy-network" entries ≠ [] := by
    intro hnil
    rw [hnil] at hrec
    cases hrec
  have hcurrent : (((listed rotation).answering entries).current taggedCiphers entropy ∅
      meshProtocolURI "network/node" "bafy-network").1 = .ok rec := by
    rw [SealedAudienceSource.current_answering hne, AList.lookup_empty]
    exact hrec
  rw [SealedAudienceSource.currentKey_eq, hcurrent, ok_bind, StoredAudience.key_eq_ok, hpayload]
  exact ⟨publicKeyBytesFromJWK_publicJWK (by simp), rfl⟩

/-- The joiner has the delegate's key, and is not handed the owner's when this becomes current. -/
theorem delivery_keeps_old_key :
    deliverJoinerAudienceKeys taggedCiphers DeliveryPayload.encoding Anchor.homeApprover
      (some ((listed rotation).answering [[0], [1]])) idleCalls "" "" "did:jwk:alice"
      deliveredBefore = (.ok (), deliveredBefore) ∧
    (∀ entropy, ((listed rotation).answering [[0]]).currentKey taggedCiphers entropy ∅
      meshProtocolURI "network/node" "bafy-network" =
        .ok (List.replicate 32 3, thumbprintForPublicKey taggedCiphers (List.replicate 32 3))) ∧
    (∀ entropy, ((listed rotation).answering [[0], [1]]).currentKey taggedCiphers entropy
      deliveredBefore.cache meshProtocolURI "network/node" "bafy-network" =
        .ok (List.replicate 32 5, thumbprintForPublicKey taggedCiphers (List.replicate 32 5))) ∧
    ∀ d ∈ deliveredBefore.deliveries,
      d.keyID ≠ thumbprintForPublicKey taggedCiphers (List.replicate 32 5) := by
  have hone : projectCurrent ((listed rotation).tupleRecords taggedCiphers meshProtocolURI
      "network/node" "bafy-network" [[0]]) "did:dht:owner" = some delegateRecord := by
    rw [parse_rotation rfl]
    rfl
  have htwo : projectCurrent ((listed rotation).tupleRecords taggedCiphers meshProtocolURI
      "network/node" "bafy-network" [[0], [1]]) "did:dht:owner" = some ownerRecord := by
    rw [parse_rotation rfl, parse_rotation rfl]
    exact projectCurrent_rotation
  refine ⟨?_, currentKey_rotation hone rfl, currentKey_rotation htwo rfl, ?_⟩
  · have hfound : deliveryRecordExists ⟨"network/node", "did:jwk:alice", "bafy-network", true⟩
        (idleCalls "network/node") deliveredBefore = .ok true :=
      deliveryRecordExists_iff.mpr ⟨rfl, _, List.mem_cons_self, rfl⟩
    rw [deliverJoinerAudienceKeys_owner rfl, homeTargets, deliverTargets, deliverTarget, hfound]
    rfl
  · intro d hd
    have hdiffer : thumbprintForPublicKey taggedCiphers (List.replicate 32 3) ≠
        thumbprintForPublicKey taggedCiphers (List.replicate 32 5) := by decide +kernel
    obtain rfl := List.mem_singleton.mp hd
    exact hdiffer

end Meshd.Mesh.KeyDelivery

import Meshd.Did.DhtMarshal

namespace Meshd.Did.Dht

open Meshd.Framework Strings

/-! ### Texts without separators -/

/-- A Go string, character by character its bytes, without the separators of a record. -/
def Plain (s : String) : Prop := ∀ c ∈ s.toList, c.toNat < 256 ∧ c ≠ ';' ∧ c ≠ '=' ∧ c ≠ ','

instance (s : String) : Decidable (Plain s) :=
  decidable_of_iff
    (s.toList.all fun c => decide (c.toNat < 256 ∧ c ≠ ';' ∧ c ≠ '=' ∧ c ≠ ',')) (by simp [Plain])

theorem Plain.append {a b : String} (ha : Plain a) (hb : Plain b) : Plain (a ++ b) := by
  intro c hc
  rw [String.toList_append, List.mem_append] at hc
  obtain hc | hc := hc
  · exact ha c hc
  · exact hb c hc

theorem Plain.toString (n : Nat) : Plain (toString n) := by
  intro c hc
  have hdigit := digit_of_mem_toString hc
  have hbyte : c.toNat < 256 := by
    rw [Char.isDigit, Bool.and_eq_true, decide_eq_true_eq, decide_eq_true_eq] at hdigit
    exact Nat.lt_of_le_of_lt hdigit.2 (by decide)
  refine ⟨hbyte, ?_, ?_, ?_⟩
  · rintro rfl
    cases hdigit
  · rintro rfl
    cases hdigit
  · rintro rfl
    cases hdigit

theorem plain_digit : ∀ n < 64, (Base64.url.digit n).toNat < 256 ∧ Base64.url.digit n ≠ ';' ∧
    Base64.url.digit n ≠ '=' ∧ Base64.url.digit n ≠ ',' := by decide

theorem Plain.rawURLEncode (bytes : Bytes) : Plain (Base64.rawURLEncode bytes) := by
  intro c hc
  rw [Base64.rawURLEncode, String.toList_ofList] at hc
  obtain ⟨n, hn, rfl⟩ := List.mem_map.mp hc
  exact plain_digit n (Base64.sextets_lt bytes n hn)

/-- The fields of a record: plain names, each with plain values. -/
def PlainFields (fields : List (String × List String)) : Prop :=
  (fields.map Prod.fst).Nodup ∧ ∀ e ∈ fields, Plain e.1 ∧ e.2 ≠ [] ∧ ∀ v ∈ e.2, Plain v

theorem property_free {e : String × List String} (hname : Plain e.1) (hvalues : ∀ v ∈ e.2, Plain v)
    {c : Char} (hc : c ∈ (property e).toList) : c.toNat < 256 ∧ c ≠ ';' := by
  rw [property, String.toList_append, String.toList_append, List.mem_append, List.mem_append] at hc
  obtain (hc | hc) | hc := hc
  · exact ⟨(hname c hc).1, (hname c hc).2.1⟩
  · obtain rfl := List.mem_singleton.mp hc
    decide
  · obtain rfl | ⟨v, hv, hc⟩ := mem_toList_intercalate ',' hc
    · decide
    · exact ⟨(hvalues v hv c hc).1, (hvalues v hv c hc).2.1⟩

theorem addField_property {m : GoMap (List String)} {e : String × List String} (hname : Plain e.1)
    (hne : e.2 ≠ []) (hvalues : ∀ v ∈ e.2, Plain v) (hfresh : e.1 ∉ m) :
    addField m (property e) = .ok (m.insert e.1 e.2) := by
  have hparts : split '=' (property e) = [e.1, ",".intercalate e.2] := by
    refine split_intercalate '=' (List.cons_ne_nil e.1 [",".intercalate e.2]) ?_
    simp only [List.mem_cons, List.not_mem_nil, or_false, forall_eq_or_imp, forall_eq]
    refine ⟨fun hc => (hname _ hc).2.2.1 rfl, fun hc => ?_⟩
    obtain hc | ⟨v, hv, hc⟩ := mem_toList_intercalate ',' hc
    · exact absurd hc (by decide)
    · exact (hvalues v hv _ hc).2.2.1 rfl
  have hsplit : split ',' (",".intercalate e.2) = e.2 :=
    split_intercalate ',' hne fun v hv hc => (hvalues v hv _ hc).2.2.2 rfl
  have hnone : m.lookup e.1 = none := AList.lookup_eq_none.mpr hfresh
  rw [addField, hparts]
  simp only [hnone, hsplit, Option.getD_none, List.nil_append]

theorem foldlM_addField_properties {fields : List (String × List String)} {m : GoMap (List String)}
    (h : PlainFields fields) (hfresh : ∀ e ∈ fields, e.1 ∉ m) :
    (fields.map property).foldlM addField m =
      .ok (fields.foldl (fun m e => m.insert e.1 e.2) m) := by
  induction fields generalizing m with
  | nil => rfl
  | cons e fields ih =>
    obtain ⟨hnodup, hplain⟩ := h
    obtain ⟨he, hnodup⟩ := List.nodup_cons.mp hnodup
    obtain ⟨⟨hname, hne, hvalues⟩, hplain⟩ := List.forall_mem_cons.mp hplain
    obtain ⟨hfirst, hrest⟩ := List.forall_mem_cons.mp hfresh
    rw [List.map_cons, List.foldlM_cons, addField_property hname hne hvalues hfirst, ok_bind,
      ih ⟨hnodup, hplain⟩, List.foldl_cons]
    intro e' he' hmem
    obtain heq | hmem := (AList.mem_insert m).mp hmem
    · exact he (heq ▸ List.mem_map_of_mem he')
    · exact hrest e' he' hmem

/-- What is written as properties is read as a map of them. -/
theorem parseTXTRecordData_properties {fields : List (String × List String)}
    (h : PlainFields fields) (hne : fields ≠ []) :
    parseTXTRecordData (";".intercalate (fields.map property)) = .ok (GoMap.ofList fields) := by
  have hsplit : split ';' (";".intercalate (fields.map property)) = fields.map property := by
    refine split_intercalate ';' (by simpa using hne) ?_
    intro text htext hc
    obtain ⟨e, he, rfl⟩ := List.mem_map.mp htext
    obtain ⟨hname, -, hvalues⟩ := h.2 e he
    exact (property_free hname hvalues hc).2 rfl
  rw [parseTXTRecordData, hsplit]
  exact foldlM_addField_properties h fun _ _ => AList.notMem_empty _

/-! ### Keys -/

/-- The algorithm of a key and its bytes. -/
def publicKey (p : Packages) (jwk : PublicJWK) : Except String (String × Bytes) := do
  let keyBytes ← publicKeyToBytes p jwk
  let algID ← algorithmID jwk
  return (algID, keyBytes)

/-- A key of 32 bytes, or of two coordinates that do not begin with a zero. -/
def PublicJWK.Full (jwk : PublicJWK) : Prop :=
  if jwk.kty = "EC" then
    ∃ x y, Base64.rawURLDecode jwk.x = some x ∧ Base64.rawURLDecode jwk.y = some y ∧
      (x ++ y).head? ≠ some 0 ∧ ((x ++ y).drop 32).head? ≠ some 0
  else ∃ x, Base64.rawURLDecode jwk.x = some x ∧ x.length = 32

section Keys

variable {p : Packages} {jwk : PublicJWK} {alg : String} {bytes : Bytes}

theorem okpPublicKeyToBytes_ok {message : String} :
    okpPublicKeyToBytes message jwk = .ok bytes ↔
      jwk.x ≠ "" ∧ Base64.rawURLDecode jwk.x = some bytes := by
  rw [okpPublicKeyToBytes, ite_error_eq_ok]
  cases Base64.rawURLDecode jwk.x with
  | none => simp
  | some b => simp

theorem secp256k1PublicKeyToUncheckedBytes_ok :
    secp256k1PublicKeyToUncheckedBytes jwk = .ok bytes ↔
      jwk.x ≠ "" ∧ jwk.y ≠ "" ∧ ∃ x y, Base64.rawURLDecode jwk.x = some x ∧
        Base64.rawURLDecode jwk.y = some y ∧ 4 :: (x ++ y) = bytes := by
  rw [secp256k1PublicKeyToUncheckedBytes, ite_error_eq_ok, not_or, and_assoc]
  cases Base64.rawURLDecode jwk.x with
  | none => simp
  | some x =>
    cases Base64.rawURLDecode jwk.y with
    | none => simp
    | some y => simp

/-- The keys that are written: points of secp256k1, and the keys that are their bytes. -/
theorem publicKey_ok (h : publicKey p jwk = .ok (alg, bytes)) :
    (jwk.kty = "EC" ∧ alg = "secp256k1" ∧ secp256k1PublicKeyToBytes p jwk = .ok bytes) ∨
      (jwk.kty = "OKP" ∧ (alg = "Ed25519" ∨ alg = "X25519") ∧
        Base64.rawURLDecode jwk.x = some bytes) := by
  obtain ⟨keyBytes, hbytes, h⟩ := bind_eq_ok.mp h
  obtain ⟨algID, halg, h⟩ := bind_eq_ok.mp h
  cases h
  rw [publicKeyToBytes] at hbytes
  rw [algorithmID] at halg
  split at hbytes
  · next hec =>
    rw [if_pos hec] at halg
    split at hbytes
    · next hcurve =>
      rw [if_pos hcurve] at halg
      cases halg
      exact .inl ⟨hec, rfl, hbytes⟩
    · cases hbytes
  · next hec =>
    rw [if_neg hec] at halg
    split at hbytes
    · next hokp =>
      rw [if_pos hokp] at halg
      split at hbytes
      · next hcurve =>
        rw [if_pos hcurve] at halg
        cases halg
        exact .inr ⟨hokp, .inl rfl, (okpPublicKeyToBytes_ok.mp hbytes).2⟩
      · next hother =>
        rw [if_neg hother] at halg
        split at hbytes
        · next hcurve =>
          rw [if_pos hcurve] at halg
          cases halg
          exact .inr ⟨hokp, .inr rfl, (okpPublicKeyToBytes_ok.mp hbytes).2⟩
        · cases hbytes
    · cases hbytes

theorem publicKey_okp (halg : alg = "Ed25519" ∨ alg = "X25519") (hne : bytes ≠ []) :
    publicKey p { kty := "OKP", crv := alg, x := Base64.rawURLEncode bytes } = .ok (alg, bytes) := by
  have hbytes (message : String) : okpPublicKeyToBytes message
      { kty := "OKP", crv := alg, x := Base64.rawURLEncode bytes } = .ok bytes :=
    okpPublicKeyToBytes_ok.mpr
      ⟨Base64.rawURLEncode_ne_empty hne, Base64.rawURLDecode_rawURLEncode bytes⟩
  rw [publicKey, publicKeyToBytes, algorithmID]
  obtain rfl | rfl := halg
  · simp [ed25519PublicKeyToBytes, hbytes]
  · simp [x25519PublicKeyToBytes, hbytes]

/-- A key that is its bytes comes back if it has 32 of them. -/
theorem okp_kept_iff (halg : alg = "Ed25519" ∨ alg = "X25519") :
    (bytes ≠ [] ∧ ∃ j, bytesToPublicKey p alg bytes = .ok j ∧ publicKey p j = .ok (alg, bytes)) ↔
      bytes.length = 32 := by
  have hread : ∃ message, bytesToPublicKey p alg bytes = okpBytesToPublicKey alg message bytes := by
    obtain rfl | rfl := halg
    · exact ⟨_, rfl⟩
    · exact ⟨_, rfl⟩
  obtain ⟨message, hread⟩ := hread
  rw [hread, okpBytesToPublicKey]
  constructor
  · rintro ⟨-, j, hj, -⟩
    rw [ite_error_eq_ok, not_not] at hj
    exact hj.1
  · intro hlength
    have hne : bytes ≠ [] := List.ne_nil_of_length_pos (by omega)
    exact ⟨hne, _, if_neg (not_not.mpr hlength), publicKey_okp halg hne⟩

/-- A point comes back if neither coordinate begins with a zero. -/
theorem secp256k1_kept_iff (hsecp : p.parsePubKey = Secp256k1.parsePubKey)
    (h : secp256k1PublicKeyToBytes p jwk = .ok bytes) :
    (bytes ≠ [] ∧ ∃ j, bytesToPublicKey p "secp256k1" bytes = .ok j ∧
      publicKey p j = .ok ("secp256k1", bytes)) ↔
      ∃ x y, Base64.rawURLDecode jwk.x = some x ∧ Base64.rawURLDecode jwk.y = some y ∧
        (x ++ y).head? ≠ some 0 ∧ ((x ++ y).drop 32).head? ≠ some 0 := by
  obtain ⟨unchecked, hunchecked, h⟩ := bind_eq_ok.mp h
  obtain ⟨key, hkey, h⟩ := bind_eq_ok.mp h
  cases h
  obtain ⟨-, -, x, y, hx, hy, rfl⟩ := secp256k1PublicKeyToUncheckedBytes_ok.mp hunchecked
  rw [mapError_eq_ok, hsecp] at hkey
  rw [Secp256k1.serializeUncompressed_parsePubKey hkey]
  obtain ⟨hstripped, hagain⟩ := Secp256k1.parsePubKey_stripped hkey
  have hread : bytesToPublicKey p "secp256k1" (4 :: (x ++ y)) = .ok
      { kty := "EC", crv := "secp256k1", x := Base64.rawURLEncode key.1,
        y := Base64.rawURLEncode key.2 } := by
    have hparse : bytesToPublicKey p "secp256k1" (4 :: (x ++ y)) =
      secp256k1BytesToPublicKey p (4 :: (x ++ y)) := rfl
    rw [hparse, secp256k1BytesToPublicKey, hsecp, hkey]
    rfl
  constructor
  · rintro ⟨-, j, hj, hpublic⟩
    rw [hread] at hj
    cases hj
    obtain ⟨-, -, hbytes⟩ | ⟨hkty, -, -⟩ := publicKey_ok hpublic
    · obtain ⟨unchecked, hunchecked, hbytes⟩ := bind_eq_ok.mp hbytes
      obtain ⟨key', hkey', -⟩ := bind_eq_ok.mp hbytes
      obtain ⟨-, -, x', y', hx', hy', rfl⟩ := secp256k1PublicKeyToUncheckedBytes_ok.mp hunchecked
      rw [Base64.rawURLDecode_rawURLEncode] at hx' hy'
      cases hx'
      cases hy'
      rw [mapError_eq_ok, hsecp] at hkey'
      obtain ⟨hxhead, hyhead⟩ := hstripped.mp (hagain key' hkey')
      exact ⟨x, y, hx, hy, hxhead, hyhead⟩
    · simp at hkty
  · rintro ⟨x', y', hx', hy', hheads⟩
    rw [hx] at hx'
    rw [hy] at hy'
    cases hx'
    cases hy'
    have hwhole := hstripped.mpr hheads
    obtain ⟨hlength, hxle, hyle⟩ := Secp256k1.length_coordinates hkey
    have hsum : key.1.length + key.2.length = 64 := by
      rw [← List.length_append, hwhole, hlength]
    have hunchecked : secp256k1PublicKeyToUncheckedBytes
        { kty := "EC", crv := "secp256k1", x := Base64.rawURLEncode key.1,
          y := Base64.rawURLEncode key.2 } = .ok (4 :: (x ++ y)) := by
      refine secp256k1PublicKeyToUncheckedBytes_ok.mpr ⟨?_, ?_, key.1, key.2,
        Base64.rawURLDecode_rawURLEncode _, Base64.rawURLDecode_rawURLEncode _, by rw [hwhole]⟩
      · exact Base64.rawURLEncode_ne_empty (List.ne_nil_of_length_pos (by omega))
      · exact Base64.rawURLEncode_ne_empty (List.ne_nil_of_length_pos (by omega))
    refine ⟨List.cons_ne_nil _ _, _, hread, ?_⟩
    rw [publicKey, publicKeyToBytes, algorithmID]
    simp [secp256k1PublicKeyToBytes, hunchecked, hsecp, hkey,
      Secp256k1.serializeUncompressed_parsePubKey hkey]

/-- The decoder gives back the key of a method exactly where it is full. -/
theorem key_kept_iff (hsecp : p.parsePubKey = Secp256k1.parsePubKey)
    (h : publicKey p jwk = .ok (alg, bytes)) :
    (bytes ≠ [] ∧ ∃ j, bytesToPublicKey p alg bytes = .ok j ∧ publicKey p j = .ok (alg, bytes)) ↔
      jwk.Full := by
  obtain ⟨hec, rfl, hbytes⟩ | ⟨hokp, halg, hx⟩ := publicKey_ok h
  · rw [secp256k1_kept_iff hsecp hbytes, PublicJWK.Full, if_pos hec]
  · have hec : jwk.kty ≠ "EC" := by
      rw [hokp]
      decide
    rw [okp_kept_iff halg, PublicJWK.Full, if_neg hec, hx]
    simp

end Keys

/-! ### Records of methods and services -/

/-- What the encoder takes for the fragment of a method: what stands after the last `#`. -/
def VerificationMethod.fragment (m : VerificationMethod) : String := (split '#' m.id).getLastD ""

def VerificationMethod.fields (m : VerificationMethod) (t : String) (keyBytes : Bytes) :
    List (String × List String) :=
  [("id", [m.fragment]), ("t", [t]), ("k", [Base64.rawURLEncode keyBytes])] ++
    if m.controller ≠ "" then [("c", [m.controller])] else []

def Service.fields (s : Service) : List (String × List String) :=
  [("id", [s.id]), ("t", [s.type]), ("se", s.serviceEndpoint)]

/-- The text of a record with these properties. -/
def recordText (fields : List (String × List String)) : String :=
  ";".intercalate (fields.map property)

theorem mem_fragment {m : VerificationMethod} {c : Char} (h : c ∈ m.fragment.toList) :
    c ∈ m.id.toList ∧ c ≠ '#' := by
  rw [VerificationMethod.fragment, List.getLastD_eq_getLast?] at h
  cases hlast : (split '#' m.id).getLast? with
  | none =>
    rw [hlast] at h
    cases h
  | some piece =>
    rw [hlast, Option.getD_some] at h
    obtain ⟨l, hl, rfl⟩ := List.mem_map.mp (List.mem_of_getLast? hlast)
    rw [String.toList_ofList] at h
    refine ⟨mem_of_mem_splitOn hl h, ?_⟩
    rintro rfl
    exact not_mem_of_mem_splitOn hl h

theorem fragment_eq {m : VerificationMethod} {did fragment : String}
    (hid : m.id = did ++ "#" ++ fragment) (hfree : '#' ∉ fragment.toList) : m.fragment = fragment := by
  have hchars : m.id.toList = did.toList ++ '#' :: fragment.toList := by simp [hid]
  rw [VerificationMethod.fragment, split, hchars, List.splitOn_append_cons_self,
    List.splitOn_eq_singleton hfree]
  simp

section Records

variable {p : Packages} {m : VerificationMethod} {text did : String}

theorem dhtIndexToAlg_algToDhtIndex {alg t : String} (h : algToDhtIndex alg = some t) :
    dhtIndexToAlg t = alg ∧ Plain t := by
  rw [algToDhtIndex] at h
  split at h
  · next halg =>
    cases h
    exact ⟨halg.symm, by decide⟩
  · split at h
    · next halg =>
      cases h
      exact ⟨halg.symm, by decide⟩
    · split at h
      · next halg =>
        cases h
        exact ⟨halg.symm, by decide⟩
      · cases h

theorem marshalVerificationMethod_ok (h : marshalVerificationMethod p m = .ok text) :
    ∃ alg keyBytes t, publicKey p m.publicKeyJwk = .ok (alg, keyBytes) ∧
      algToDhtIndex alg = some t ∧ text = recordText (m.fields t keyBytes) := by
  obtain ⟨keyBytes, hbytes, h⟩ := bind_eq_ok.mp h
  obtain ⟨alg, halg, h⟩ := bind_eq_ok.mp h
  cases ht : algToDhtIndex alg with
  | none =>
    rw [ht] at h
    cases h
  | some t =>
    rw [ht] at h
    cases h
    refine ⟨alg, keyBytes, t, bind_eq_ok.mpr ⟨keyBytes, hbytes, bind_eq_ok.mpr ⟨alg, halg, rfl⟩⟩,
      ht, ?_⟩
    rw [recordText, VerificationMethod.fields]
    by_cases hc : m.controller = ""
    · simp only [hc, ne_eq, not_true_eq_false, if_false]
      rfl
    · simp only [hc, ne_eq, not_false_eq_true, if_true]
      rfl

theorem plainFields_method {t : String} {keyBytes : Bytes} (hid : Plain m.id)
    (hcontroller : Plain m.controller) (ht : Plain t) : PlainFields (m.fields t keyBytes) := by
  have hfragment : Plain m.fragment := fun c hc => hid c (mem_fragment hc).1
  have hkey := Plain.rawURLEncode keyBytes
  have hnames : Plain "id" ∧ Plain "t" ∧ Plain "k" ∧ Plain "c" := by decide
  rw [VerificationMethod.fields]
  by_cases hc : m.controller = ""
  · simp [PlainFields, hc, hnames, hfragment, ht, hkey]
  · simp [PlainFields, hc, hnames, hfragment, ht, hkey, hcontroller]

theorem joined_method {t : String} {keyBytes : Bytes} (h : PlainFields (m.fields t keyBytes)) :
    ((GoMap.ofList (m.fields t keyBytes)).lookup "id").isSome = true ∧
      joined (GoMap.ofList (m.fields t keyBytes)) "id" = m.fragment ∧
      joined (GoMap.ofList (m.fields t keyBytes)) "t" = t ∧
      joined (GoMap.ofList (m.fields t keyBytes)) "k" = Base64.rawURLEncode keyBytes ∧
      joined (GoMap.ofList (m.fields t keyBytes)) "c" = m.controller := by
  have hlookup {k : String} {v : List String} (hmem : (k, v) ∈ m.fields t keyBytes) :
      (GoMap.ofList (m.fields t keyBytes)).lookup k = some v := (GoMap.lookup_ofList h.1).mpr hmem
  have hid := hlookup (k := "id") (v := [m.fragment]) (by simp [VerificationMethod.fields])
  have ht := hlookup (k := "t") (v := [t]) (by simp [VerificationMethod.fields])
  have hk := hlookup (k := "k") (v := [Base64.rawURLEncode keyBytes])
    (by simp [VerificationMethod.fields])
  have hc : joined (GoMap.ofList (m.fields t keyBytes)) "c" = m.controller := by
    by_cases hempty : m.controller = ""
    · rw [joined, GoMap.lookup_ofList_none h.1 (by simp [VerificationMethod.fields, hempty]), hempty]
      rfl
    · rw [joined, hlookup (k := "c") (v := [m.controller])
        (by simp [VerificationMethod.fields, hempty])]
      simp [String.join]
  refine ⟨by rw [hid]; rfl, ?_, ?_, ?_, hc⟩
  · simp [joined, hid, String.join]
  · simp [joined, ht, String.join]
  · simp [joined, hk, String.join]

/-- What the decoder makes of the record of a method. -/
theorem unmarshalVerificationMethod_marshal {alg : String} {keyBytes : Bytes} {m' : VerificationMethod}
    (hid : Plain m.id) (hcontroller : Plain m.controller)
    (h : marshalVerificationMethod p m = .ok text)
    (hkey : publicKey p m.publicKeyJwk = .ok (alg, keyBytes)) :
    unmarshalVerificationMethod p text did = .ok m' ↔
      keyBytes ≠ [] ∧ ∃ j, bytesToPublicKey p alg keyBytes = .ok j ∧
        m' = {
          id := did ++ "#" ++ m.fragment
          type := "JsonWebKey"
          controller := if m.controller = "" then did else m.controller
          publicKeyJwk := j } := by
  obtain ⟨_, _, t, hkey', ht, rfl⟩ := marshalVerificationMethod_ok h
  cases hkey.symm.trans hkey'
  obtain ⟨halg, htplain⟩ := dhtIndexToAlg_algToDhtIndex ht
  have hplain : PlainFields (m.fields t keyBytes) := plainFields_method hid hcontroller htplain
  have hparse := parseTXTRecordData_properties hplain (by simp [VerificationMethod.fields])
  obtain ⟨hidsome, hidvalue, htvalue, hkvalue, hcvalue⟩ := joined_method hplain
  have hne : did ++ "#" ++ m.fragment ≠ "" := by
    intro hempty
    have hlength := congrArg String.length hempty
    simp at hlength
  have halgne : alg ≠ "" := by
    rintro rfl
    cases ht
  rw [recordText, unmarshalVerificationMethod, hparse, ok_bind]
  simp only [hidsome, hidvalue, htvalue, hkvalue, hcvalue, halg, if_true]
  by_cases hbytes : keyBytes = []
  · have hempty : Base64.rawURLEncode ([] : Bytes) = "" := rfl
    simp [hbytes, hempty]
  · rw [if_neg (by simp [halgne, Base64.rawURLEncode_ne_empty hbytes])]
    simp only [Base64.rawURLDecode_rawURLEncode, hbytes, if_false, hne, bind_eq_ok]
    constructor
    · rintro ⟨j, hj, hm⟩
      cases hm
      exact ⟨hbytes, j, hj, rfl⟩
    · rintro ⟨-, j, hj, rfl⟩
      exact ⟨j, hj, rfl⟩

theorem plainFields_service {s : Service} (hid : Plain s.id) (htype : Plain s.type)
    (hendpoints : ∀ e ∈ s.serviceEndpoint, Plain e) (hne : s.serviceEndpoint ≠ []) :
    PlainFields s.fields := by
  have hnames : Plain "id" ∧ Plain "t" ∧ Plain "se" := by decide
  simpa [PlainFields, Service.fields, hnames, hid, htype, hne] using hendpoints

/-- A service comes back exactly where all its endpoints are valid. -/
theorem unmarshalService_fields {s s' : Service} (hid : Plain s.id) (htype : Plain s.type)
    (hendpoints : ∀ e ∈ s.serviceEndpoint, Plain e) (hne : s.serviceEndpoint ≠ []) :
    unmarshalService p (recordText s.fields) = .ok s' ↔
      (∀ e ∈ s.serviceEndpoint, p.parseRequestURI e = true) ∧ s' = s := by
  have hplain := plainFields_service hid htype hendpoints hne
  have hparse := parseTXTRecordData_properties hplain (by simp [Service.fields])
  have hlookup {k : String} {v : List String} (hmem : (k, v) ∈ s.fields) :
      (GoMap.ofList s.fields).lookup k = some v := (GoMap.lookup_ofList hplain.1).mpr hmem
  have hidvalue := hlookup (k := "id") (v := [s.id]) (by simp [Service.fields])
  have htvalue := hlookup (k := "t") (v := [s.type]) (by simp [Service.fields])
  have hevalue := hlookup (k := "se") (v := s.serviceEndpoint) (by simp [Service.fields])
  rw [recordText, unmarshalService, hparse, ok_bind]
  simp only [joined, hidvalue, htvalue, hevalue, Option.getD_some, String.join, List.foldl_cons,
    List.foldl_nil, String.empty_append]
  rw [ite_error_eq_ok, not_not, List.all_eq_true]
  constructor
  · rintro ⟨hvalid, hs⟩
    cases hs
    exact ⟨hvalid, rfl⟩
  · rintro ⟨hvalid, rfl⟩
    exact ⟨hvalid, rfl⟩

end Records

end Meshd.Did.Dht

import Meshd.Dwn.Crypto.Jwe
import Meshd.Dwn.PermissionGrants
import Meshd.Framework.GoValue

namespace Meshd.Dwn

open Meshd.Framework Meshd.Dwn.Crypto

/-! Signed messages and the CIDs in their signatures. -/

/-! ### CIDs -/

mutual

/-- `normalizeForCBOR`: whole floats become integers, in maps and slices of `any` only. The limit is
the `float64` nearest to `math.MaxInt64`, which as an `int64` wraps. -/
def normalizeForCBOR : GoValue → GoValue
  | .float (.whole n) =>
    if -2 ^ 63 ≤ n ∧ n ≤ 2 ^ 63 then .int (n.bmod (2 ^ 64)) else .float (.whole n)
  | .float .negZero => .int 0
  | .map fields => .map (normalizeFields fields)
  | .slice items => .slice (normalizeItems items)
  | v => v

def normalizeItems : List GoValue → List GoValue
  | [] => []
  | v :: vs => normalizeForCBOR v :: normalizeItems vs

def normalizeFields : List (String × GoValue) → List (String × GoValue)
  | [] => []
  | p :: ps => normalizeField p :: normalizeFields ps

def normalizeField : String × GoValue → String × GoValue
  | (k, v) => (k, normalizeForCBOR v)

end

/-- What the packages outside the repository do: the reader of JSON texts, the shortest CBOR of a
float, SHA-256 and the text of a CID. -/
structure Formats where
  parse : Bytes → Option JsonTree
  float : Float64 → Bytes
  sha256 : Bytes → Bytes
  cid : Nat → Bytes → String
  cid_ne_empty : ∀ codec digest, cid codec digest ≠ ""
  /-- the texts of grants -/
  reader : GrantReader
  /-- `json.Unmarshal` into the signature of an authorization -/
  signature : Bytes → Except String (Option GeneralJWS)

def codecDAGCBOR : Nat := 0x71

def codecRaw : Nat := 0x55

variable (f : Formats)

/-- The CID of a CBOR item. -/
def itemCID (item : Cbor) : String := f.cid codecDAGCBOR (f.sha256 (Cbor.encode f.float item))

def computeCID (obj : GoValue) : String := itemCID f (normalizeForCBOR obj).toCbor

def computeDataCID (data : Bytes) : String := f.cid codecRaw (f.sha256 data)

/-- `json.Unmarshal` of a text into an `any`. -/
def unmarshalAny (text : Bytes) : Option GoValue := (f.parse text).bind GoValue.decode

/-- The value as its JSON is read back. -/
def reread (v : GoValue) : Option GoValue := (v.encode f.parse).bind GoValue.decode

def rereadItems (vs : List GoValue) : Option (List GoValue) :=
  (GoValue.encodeItems f.parse vs).bind GoValue.decodeItems

def rereadFields (ps : List (String × GoValue)) : Option (List (String × GoValue)) :=
  (GoValue.encodeFields f.parse ps).bind GoValue.decodeFields

section Rereading

/-! ### Values that keep their CID -/

mutual

/-- A value in a slice or map of its own type, which is not normalized: it must not contain a whole
float, which would be read back as an integer. -/
def Settled : GoValue → Prop
  | .nil | .bool _ | .str _ => True
  | .int n => n.natAbs < 2 ^ 53
  | .float (.fraction ..) => True
  | .float _ => False
  | .bytes _ | .raw _ => False
  | .slice items | .typedSlice items => SettledItems items
  | .map fields | .typedMap fields => SettledFields fields

def SettledItems : List GoValue → Prop
  | [] => True
  | v :: vs => Settled v ∧ SettledItems vs

def SettledFields : List (String × GoValue) → Prop
  | [] => True
  | p :: ps => SettledField p ∧ SettledFields ps

def SettledField : String × GoValue → Prop
  | (_, v) => Settled v

end

mutual

/-- A value as it stands in an `any`, of numbers below `2 ^ 53`, without byte slices. -/
def Plain : GoValue → Prop
  | .nil | .bool _ | .str _ => True
  | .int n => n.natAbs < 2 ^ 53
  | .float (.whole n) => n.natAbs < 2 ^ 53
  | .float (.fraction ..) | .float .negZero => True
  | .float _ => False
  | .bytes _ | .raw _ => False
  | .slice items => PlainItems items
  | .typedSlice items => SettledItems items
  | .map fields => PlainFields fields
  | .typedMap fields => SettledFields fields

def PlainItems : List GoValue → Prop
  | [] => True
  | v :: vs => Plain v ∧ PlainItems vs

def PlainFields : List (String × GoValue) → Prop
  | [] => True
  | p :: ps => PlainField p ∧ PlainFields ps

def PlainField : String × GoValue → Prop
  | (_, v) => Plain v

end

/-- The value is read back from its JSON as one with the same CBOR. -/
def SameCbor (v : GoValue) : Prop :=
  ∃ w, reread f v = some w ∧ (normalizeForCBOR w).toCbor = v.toCbor

def SameCborItems (vs : List GoValue) : Prop :=
  ∃ ws, rereadItems f vs = some ws ∧
    GoValue.toCborItems (normalizeItems ws) = GoValue.toCborItems vs

def SameCborFields (ps : List (String × GoValue)) : Prop :=
  ∃ qs, rereadFields f ps = some qs ∧
    GoValue.toCborFields (normalizeFields qs) = GoValue.toCborFields ps

variable {f}

theorem normalizeForCBOR_whole {n : Int} (h : n.natAbs < 2 ^ 53) :
    normalizeForCBOR (.float (.whole n)) = .int n := by
  rw [normalizeForCBOR, if_pos (by omega), Int.bmod_eq_of_le (by omega) (by omega)]

theorem sameCbor_int {n : Int} (h : n.natAbs < 2 ^ 53) : SameCbor f (.int n) := by
  refine ⟨.float (.whole n), ?_, by rw [normalizeForCBOR_whole h]⟩
  simp [reread, GoValue.encode, GoValue.decode, Json.float64_of_small h]

theorem rereadItems_cons (v : GoValue) (vs : List GoValue) :
    rereadItems f (v :: vs) = (reread f v).bind fun w => (rereadItems f vs).map (w :: ·) := by
  rw [rereadItems, rereadItems, reread, GoValue.encodeItems]
  cases v.encode f.parse with
  | none => rfl
  | some t =>
    cases GoValue.encodeItems f.parse vs with
    | none => cases hd : GoValue.decode t <;> simp [hd]
    | some ts => rfl

theorem rereadFields_cons (k : String) (v : GoValue) (ps : List (String × GoValue)) :
    rereadFields f ((k, v) :: ps) =
      (reread f v).bind fun w => (rereadFields f ps).map ((k, w) :: ·) := by
  rw [rereadFields, rereadFields, reread, GoValue.encodeFields, GoValue.encodeField]
  cases v.encode f.parse with
  | none => rfl
  | some t =>
    cases GoValue.encodeFields f.parse ps with
    | none => cases hd : GoValue.decode t <;> simp [hd]
    | some ts =>
      simp only [Option.map_some, Option.bind_some, GoValue.decodeFields, GoValue.decodeField]
      cases GoValue.decode t <;> rfl

theorem reread_typedSlice (vs : List GoValue) :
    reread f (.typedSlice vs) = (rereadItems f vs).map .slice := by
  rw [reread, GoValue.encode, rereadItems]
  cases GoValue.encodeItems f.parse vs with
  | none => rfl
  | some ts => simp [GoValue.decode]

theorem reread_typedMap (ps : List (String × GoValue)) :
    reread f (.typedMap ps) = (rereadFields f ps).map .map := by
  rw [reread, GoValue.encode, rereadFields]
  cases GoValue.encodeFields f.parse ps with
  | none => rfl
  | some ts => simp [GoValue.decode]

theorem sameCborItems_cons {v : GoValue} {vs : List GoValue} :
    SameCborItems f (v :: vs) ↔ SameCbor f v ∧ SameCborItems f vs := by
  constructor
  · rintro ⟨ws, hws, hcbor⟩
    rw [rereadItems_cons] at hws
    obtain ⟨w, hw, hrest⟩ := Option.bind_eq_some_iff.mp hws
    obtain ⟨ws', hws', rfl⟩ := Option.map_eq_some_iff.mp hrest
    rw [normalizeItems, GoValue.toCborItems, GoValue.toCborItems] at hcbor
    exact ⟨⟨w, hw, (List.cons.inj hcbor).1⟩, ws', hws', (List.cons.inj hcbor).2⟩
  · rintro ⟨⟨w, hw, hcbor⟩, ws, hws, hcbors⟩
    refine ⟨w :: ws, by rw [rereadItems_cons, hw, hws]; rfl, ?_⟩
    rw [normalizeItems, GoValue.toCborItems, hcbor, hcbors, GoValue.toCborItems]

theorem sameCborFields_cons {k : String} {v : GoValue} {ps : List (String × GoValue)} :
    SameCborFields f ((k, v) :: ps) ↔ SameCbor f v ∧ SameCborFields f ps := by
  constructor
  · rintro ⟨qs, hqs, hcbor⟩
    rw [rereadFields_cons] at hqs
    obtain ⟨w, hw, hrest⟩ := Option.bind_eq_some_iff.mp hqs
    obtain ⟨qs', hqs', rfl⟩ := Option.map_eq_some_iff.mp hrest
    rw [normalizeFields, normalizeField, GoValue.toCborFields, GoValue.toCborFields,
      GoValue.toCborField, GoValue.toCborField] at hcbor
    obtain ⟨hfirst, hrest⟩ := List.cons.inj hcbor
    exact ⟨⟨w, hw, (Prod.mk.inj hfirst).2⟩, qs', hqs', hrest⟩
  · rintro ⟨⟨w, hw, hcbor⟩, qs, hqs, hcbors⟩
    refine ⟨(k, w) :: qs, by rw [rereadFields_cons, hw, hqs]; rfl, ?_⟩
    rw [normalizeFields, normalizeField, GoValue.toCborFields, GoValue.toCborField, hcbor, hcbors,
      GoValue.toCborFields, GoValue.toCborField]

theorem sameCbor_typedSlice {vs : List GoValue} :
    SameCbor f (.typedSlice vs) ↔ SameCborItems f vs := by
  constructor
  · rintro ⟨w, hw, hcbor⟩
    rw [reread_typedSlice] at hw
    obtain ⟨ws, hws, rfl⟩ := Option.map_eq_some_iff.mp hw
    rw [normalizeForCBOR] at hcbor
    exact ⟨ws, hws, Cbor.array.inj hcbor⟩
  · rintro ⟨ws, hws, hcbor⟩
    refine ⟨.slice ws, by rw [reread_typedSlice, hws]; rfl, ?_⟩
    rw [normalizeForCBOR, GoValue.toCbor, hcbor, GoValue.toCbor]

theorem sameCbor_typedMap {ps : List (String × GoValue)} :
    SameCbor f (.typedMap ps) ↔ SameCborFields f ps := by
  constructor
  · rintro ⟨w, hw, hcbor⟩
    rw [reread_typedMap] at hw
    obtain ⟨qs, hqs, rfl⟩ := Option.map_eq_some_iff.mp hw
    rw [normalizeForCBOR] at hcbor
    exact ⟨qs, hqs, Cbor.map.inj hcbor⟩
  · rintro ⟨qs, hqs, hcbor⟩
    refine ⟨.map qs, by rw [reread_typedMap, hqs]; rfl, ?_⟩
    rw [normalizeForCBOR, GoValue.toCbor, hcbor, GoValue.toCbor]

/-- JSON and CBOR do not tell the slices and the maps of `any` from others. -/
theorem sameCbor_slice {vs : List GoValue} : SameCbor f (.slice vs) ↔ SameCborItems f vs :=
  sameCbor_typedSlice

theorem sameCbor_map {ps : List (String × GoValue)} : SameCbor f (.map ps) ↔ SameCborFields f ps :=
  sameCbor_typedMap

mutual

theorem sameCbor_of_settled : ∀ {v : GoValue}, Settled v → SameCbor f v
  | .nil, _ => ⟨.nil, rfl, rfl⟩
  | .bool b, _ => ⟨.bool b, rfl, rfl⟩
  | .str s, _ => ⟨.str s, rfl, rfl⟩
  | .int _, h => sameCbor_int h
  | .float (.fraction m e odd), _ => ⟨.float (.fraction m e odd), rfl, rfl⟩
  | .slice _, h => sameCbor_slice.mpr (sameCborItems_of_settled h)
  | .typedSlice _, h => sameCbor_typedSlice.mpr (sameCborItems_of_settled h)
  | .map _, h => sameCbor_map.mpr (sameCborFields_of_settled h)
  | .typedMap _, h => sameCbor_typedMap.mpr (sameCborFields_of_settled h)

theorem sameCborItems_of_settled : ∀ {vs : List GoValue}, SettledItems vs → SameCborItems f vs
  | [], _ => ⟨[], rfl, rfl⟩
  | _ :: _, h => sameCborItems_cons.mpr ⟨sameCbor_of_settled h.1, sameCborItems_of_settled h.2⟩

theorem sameCborFields_of_settled :
    ∀ {ps : List (String × GoValue)}, SettledFields ps → SameCborFields f ps
  | [], _ => ⟨[], rfl, rfl⟩
  | (_, _) :: _, h =>
    sameCborFields_cons.mpr ⟨sameCbor_of_settled h.1, sameCborFields_of_settled h.2⟩

end

mutual

/-- A plain value that is normalized is read back with the same CBOR. -/
theorem sameCbor_normalizeForCBOR : ∀ {v : GoValue}, Plain v → SameCbor f (normalizeForCBOR v)
  | .nil, _ => ⟨.nil, rfl, rfl⟩
  | .bool b, _ => ⟨.bool b, rfl, rfl⟩
  | .str s, _ => ⟨.str s, rfl, rfl⟩
  | .int n, h => sameCbor_int h
  | .float (.whole n), h => by
    rw [normalizeForCBOR_whole h]
    exact sameCbor_int h
  | .float .negZero, _ => sameCbor_int (by decide)
  | .float (.fraction m e odd), _ => ⟨.float (.fraction m e odd), rfl, rfl⟩
  | .slice items, h => by
    rw [normalizeForCBOR]
    exact sameCbor_slice.mpr (sameCborItems_normalizeItems h)
  | .typedSlice _, h => sameCbor_typedSlice.mpr (sameCborItems_of_settled h)
  | .map fields, h => by
    rw [normalizeForCBOR]
    exact sameCbor_map.mpr (sameCborFields_normalizeFields h)
  | .typedMap _, h => sameCbor_typedMap.mpr (sameCborFields_of_settled h)

theorem sameCborItems_normalizeItems :
    ∀ {vs : List GoValue}, PlainItems vs → SameCborItems f (normalizeItems vs)
  | [], _ => ⟨[], rfl, rfl⟩
  | _ :: _, h =>
    sameCborItems_cons.mpr ⟨sameCbor_normalizeForCBOR h.1, sameCborItems_normalizeItems h.2⟩

theorem sameCborFields_normalizeFields :
    ∀ {ps : List (String × GoValue)}, PlainFields ps → SameCborFields f (normalizeFields ps)
  | [], _ => ⟨[], rfl, rfl⟩
  | (_, _) :: _, h =>
    sameCborFields_cons.mpr ⟨sameCbor_normalizeForCBOR h.1, sameCborFields_normalizeFields h.2⟩

end

/-! ### No others do -/

mutual

/-- The integers in the value are below `2 ^ 53`. -/
def Small : GoValue → Prop
  | .int n | .float (.whole n) => n.natAbs < 2 ^ 53
  | .slice items | .typedSlice items => SmallItems items
  | .map fields | .typedMap fields => SmallFields fields
  | _ => True

def SmallItems : List GoValue → Prop
  | [] => True
  | v :: vs => Small v ∧ SmallItems vs

def SmallFields : List (String × GoValue) → Prop
  | [] => True
  | p :: ps => SmallField p ∧ SmallFields ps

def SmallField : String × GoValue → Prop
  | (_, v) => Small v

end

/-- JSON has no byte strings. -/
theorem not_sameCbor_bytes {v : GoValue} {b : Bytes} (hv : v.toCbor = .bytes b) : ¬ SameCbor f v := by
  rintro ⟨w, hw, hcbor⟩
  rw [hv] at hcbor
  have hread : ∃ t, GoValue.decode t = some w := by
    obtain ⟨t, -, ht⟩ := Option.bind_eq_some_iff.mp hw
    exact ⟨t, ht⟩
  obtain ⟨t, ht⟩ := hread
  cases w with
  | bytes b =>
    cases t <;> simp [GoValue.decode] at ht
  | raw b => cases t <;> simp [GoValue.decode] at ht
  | float x =>
    cases x <;> simp only [normalizeForCBOR] at hcbor
    · split_ifs at hcbor <;> cases hcbor
    all_goals cases hcbor
  | _ => cases hcbor

/-- A whole float is read back as an integer. -/
theorem not_sameCbor_whole {n : Int} (h : n.natAbs < 2 ^ 53) : ¬ SameCbor f (.float (.whole n)) := by
  rintro ⟨w, hw, hcbor⟩
  obtain rfl : GoValue.float (.whole n) = w := Option.some.inj hw
  rw [normalizeForCBOR_whole h] at hcbor
  cases hcbor

theorem not_sameCbor_negZero : ¬ SameCbor f (.float .negZero) := by
  rintro ⟨w, hw, hcbor⟩
  obtain rfl : GoValue.float .negZero = w := Option.some.inj hw
  cases hcbor

mutual

theorem settled_of_sameCbor : ∀ {v : GoValue}, Small v → SameCbor f v → Settled v
  | .nil, _, _ | .bool _, _, _ | .str _, _, _ => trivial
  | .int _, h, _ => h
  | .float (.fraction ..), _, _ => trivial
  | .float (.whole _), h, hs => not_sameCbor_whole h hs
  | .float .negZero, _, hs => not_sameCbor_negZero hs
  | .float (.infinite _), _, ⟨_, hw, _⟩ => nomatch hw
  | .float .nan, _, ⟨_, hw, _⟩ => nomatch hw
  | .bytes _, _, hs => not_sameCbor_bytes rfl hs
  | .raw _, _, hs => not_sameCbor_bytes rfl hs
  | .slice _, h, hs => settledItems_of_sameCbor h (sameCbor_slice.mp hs)
  | .typedSlice _, h, hs => settledItems_of_sameCbor h (sameCbor_typedSlice.mp hs)
  | .map _, h, hs => settledFields_of_sameCbor h (sameCbor_map.mp hs)
  | .typedMap _, h, hs => settledFields_of_sameCbor h (sameCbor_typedMap.mp hs)

theorem settledItems_of_sameCbor :
    ∀ {vs : List GoValue}, SmallItems vs → SameCborItems f vs → SettledItems vs
  | [], _, _ => trivial
  | _ :: _, h, hs =>
    ⟨settled_of_sameCbor h.1 (sameCborItems_cons.mp hs).1,
      settledItems_of_sameCbor h.2 (sameCborItems_cons.mp hs).2⟩

theorem settledFields_of_sameCbor :
    ∀ {ps : List (String × GoValue)}, SmallFields ps → SameCborFields f ps → SettledFields ps
  | [], _, _ => trivial
  | (_, _) :: _, h, hs =>
    ⟨settled_of_sameCbor h.1 (sameCborFields_cons.mp hs).1,
      settledFields_of_sameCbor h.2 (sameCborFields_cons.mp hs).2⟩

end

mutual

/-- A value of small integers that is normalized and read back with the same CBOR is plain. -/
theorem plain_of_sameCbor :
    ∀ {v : GoValue}, Small v → SameCbor f (normalizeForCBOR v) → Plain v
  | .nil, _, _ | .bool _, _, _ | .str _, _, _ => trivial
  | .int _, h, _ => h
  | .float (.whole _), h, _ => h
  | .float (.fraction ..), _, _ | .float .negZero, _, _ => trivial
  | .float (.infinite _), _, ⟨_, hw, _⟩ => nomatch hw
  | .float .nan, _, ⟨_, hw, _⟩ => nomatch hw
  | .bytes _, _, hs => not_sameCbor_bytes rfl hs
  | .raw _, _, hs => not_sameCbor_bytes rfl hs
  | .slice _, h, hs => by
    rw [normalizeForCBOR] at hs
    exact plainItems_of_sameCbor h (sameCbor_slice.mp hs)
  | .typedSlice _, h, hs => settledItems_of_sameCbor h (sameCbor_typedSlice.mp hs)
  | .map _, h, hs => by
    rw [normalizeForCBOR] at hs
    exact plainFields_of_sameCbor h (sameCbor_map.mp hs)
  | .typedMap _, h, hs => settledFields_of_sameCbor h (sameCbor_typedMap.mp hs)

theorem plainItems_of_sameCbor :
    ∀ {vs : List GoValue}, SmallItems vs → SameCborItems f (normalizeItems vs) → PlainItems vs
  | [], _, _ => trivial
  | _ :: _, h, hs =>
    ⟨plain_of_sameCbor h.1 (sameCborItems_cons.mp hs).1,
      plainItems_of_sameCbor h.2 (sameCborItems_cons.mp hs).2⟩

theorem plainFields_of_sameCbor : ∀ {ps : List (String × GoValue)}, SmallFields ps →
    SameCborFields f (normalizeFields ps) → PlainFields ps
  | [], _, _ => trivial
  | (_, _) :: _, h, hs =>
    ⟨plain_of_sameCbor h.1 (sameCborFields_cons.mp hs).1,
      plainFields_of_sameCbor h.2 (sameCborFields_cons.mp hs).2⟩

end

end Rereading

/-! ### Signatures -/

/-- A member that is left out when it is empty. -/
def omitEmpty (name text : String) : List (String × Json) :=
  if text = "" then [] else [(name, .str text)]

structure Signer where
  did : String
  /-- `ed25519.Sign` with the private key -/
  sign : Bytes → Bytes

def Signer.keyID (s : Signer) : String := s.did ++ "#0"

def signJWS (payload : Json) (kid : String) (sign : Bytes → Bytes) : GeneralJWS :=
  let payloadB64 := Base64.rawURLEncode (JsonText.marshal payload)
  let headerB64 := Base64.rawURLEncode
    (JsonText.marshal (.obj [("alg", .str "EdDSA"), ("kid", .str kid)]))
  let sig := sign (JsonText.utf8 (headerB64 ++ "." ++ payloadB64))
  { payload := payloadB64, signatures := [⟨headerB64, Base64.rawURLEncode sig⟩] }

/-- A text in the payload of a signature, as its verifier reads it. -/
def signedMember (jws : GeneralJWS) (name : String) : Option String :=
  ((Base64.rawURLDecode jws.payload).bind JsonText.unmarshal).bind fun payload =>
    payload.asObject.bind fun fields => (Json.field name fields).bind Json.asString

/-- The payload of all messages but writes. -/
def genericSignaturePayload (descriptorCID permissionGrantID delegatedGrantID protocolRole : String) :
    Json :=
  .obj ([("descriptorCid", .str descriptorCID)] ++ omitEmpty "permissionGrantId" permissionGrantID ++
    omitEmpty "delegatedGrantId" delegatedGrantID ++ omitEmpty "protocolRole" protocolRole)

/-- The payload of a write; there is never an attestation. -/
def recordsWriteSignaturePayload (descriptorCID recordID contextID encryptionCID permissionGrantID
    delegatedGrantID protocolRole : String) : Json :=
  .obj ([("descriptorCid", .str descriptorCID), ("recordId", .str recordID)] ++
    omitEmpty "contextId" contextID ++ omitEmpty "encryptionCid" encryptionCID ++
    omitEmpty "permissionGrantId" permissionGrantID ++
    omitEmpty "delegatedGrantId" delegatedGrantID ++ omitEmpty "protocolRole" protocolRole)

structure Authorization where
  signature : GeneralJWS
  /-- the message of the grant; empty for none -/
  authorDelegatedGrant : Bytes := []

structure Message where
  recordID : String := ""
  contextID : String := ""
  descriptor : List (String × GoValue)
  authorization : Authorization
  encryption : Option Encryption := none

/-! ### Delegated grants -/

def jsTruthy : GoValue → Bool
  | .nil => false
  | .bool b => b
  | .str s => s ≠ ""
  | .float (.whole n) => n ≠ 0
  | .float .negZero => false
  | .float .nan => false
  | _ => true

/-- The map without its data, if that is truthy. -/
def withoutData (m : List (String × GoValue)) : List (String × GoValue) :=
  match m.lookup "encodedData" with
  | some v => if jsTruthy v then m.filter (·.1 ≠ "encodedData") else m
  | none => m

def computeDelegatedGrantID (grant : Bytes) : Except String String :=
  match unmarshalAny f grant with
  | some (.map m) => .ok (computeCID f (.map (withoutData m)))
  | some .nil => .ok (computeCID f .nil)
  | _ => .error "parsing delegated grant message: invalid message"

def delegatedGrantAuthor (grant : Bytes) : Except String String := do
  let signature ← (f.signature grant).mapError ("parsing delegated grant message: " ++ ·)
  (signerDIDFromJWS f.reader signature).mapError ("delegated grant: " ++ ·)

/-- The ID of the grant that is invoked, empty without one. -/
def delegatedGrantID (grant : Bytes) : Except String String :=
  if grant = [] then .ok "" else computeDelegatedGrantID f grant

def errGrantInvocationConflict : String := "permissionGrantId and delegatedGrant are mutually exclusive"

/-! ### Messages other than writes -/

/-- A member of a descriptor that is left out when it is empty. -/
def optionalText (name text : String) : List (String × GoValue) :=
  if text = "" then [] else [(name, .str text)]

/-- A member that is left out when it is nil. -/
def optionalAny (name : String) : GoValue → List (String × GoValue)
  | .nil => []
  | v => [(name, v)]

def optionalMap (name : String) (fields : List (String × GoValue)) : List (String × GoValue) :=
  if fields = [] then [] else [(name, .map fields)]

/-- The descriptor on the message is the one that `ComputeCID` has normalized in place. -/
def signGenericMessage (s : Signer) (desc : List (String × GoValue)) (auth : MessageAuth) :
    Except String Message :=
  if auth.permissionGrantID ≠ "" ∧ auth.delegatedGrant ≠ [] then .error errGrantInvocationConflict
  else do
    let desc := desc ++ optionalText "permissionGrantId" auth.permissionGrantID
    let grantID ← delegatedGrantID f auth.delegatedGrant
    let payload := genericSignaturePayload (computeCID f (.map desc)) auth.permissionGrantID grantID
      auth.protocolRole
    return { descriptor := normalizeFields desc
             authorization := { signature := signJWS payload s.keyID s.sign
                                authorDelegatedGrant := auth.delegatedGrant } }

structure RecordsFilter where
  recordID : String := ""
  /-- a text or a list of texts -/
  author : GoValue := .nil
  recipient : GoValue := .nil
  protocol : String := ""
  protocolPath : String := ""
  contextID : String := ""
  schema : String := ""
  parentID : String := ""
  dataFormat : String := ""
  published : Option Bool := none
  tags : List (String × GoValue) := []

structure Pagination where
  limit : Int := 0
  cursor : Option Bytes := none

def filterToMap (filter : RecordsFilter) : List (String × GoValue) :=
  optionalText "recordId" filter.recordID ++ optionalAny "author" filter.author ++
  optionalAny "recipient" filter.recipient ++ optionalText "protocol" filter.protocol ++
  optionalText "protocolPath" filter.protocolPath ++ optionalText "contextId" filter.contextID ++
  optionalText "schema" filter.schema ++ optionalText "parentId" filter.parentID ++
  optionalText "dataFormat" filter.dataFormat ++
  (match filter.published with
    | none => []
    | some b => [("published", .bool b)]) ++
  optionalMap "tags" filter.tags

/-- The members that every descriptor has. -/
def baseDescriptor (interface method now : String) : List (String × GoValue) :=
  [("interface", .str interface), ("method", .str method), ("messageTimestamp", .str now)]

/-- `now` is the timestamp at the call. -/
def buildRecordsReadWithAuth (s : Signer) (now : String) (filter : RecordsFilter)
    (auth : MessageAuth) : Except String Message :=
  signGenericMessage f s
    (baseDescriptor "Records" "Read" now ++ [("filter", .map (filterToMap filter))]) auth

def paginationToMap (pagination : Pagination) : List (String × GoValue) :=
  (if 0 < pagination.limit then [("limit", .int pagination.limit)] else []) ++
  (match pagination.cursor with
    | none => []
    | some cursor => [("cursor", .raw cursor)])

def buildRecordsQueryWithAuth (s : Signer) (now : String) (filter : RecordsFilter)
    (dateSort : String) (pagination : Option Pagination) (auth : MessageAuth) :
    Except String Message :=
  signGenericMessage f s
    (baseDescriptor "Records" "Query" now ++ [("filter", .map (filterToMap filter))] ++
      optionalText "dateSort" dateSort ++
      (match pagination with
        | none => []
        | some p => [("pagination", .map (paginationToMap p))])) auth

def buildRecordsDeleteWithAuth (s : Signer) (now recordID : String) (prune : Bool)
    (auth : MessageAuth) : Except String Message :=
  signGenericMessage f s
    (baseDescriptor "Records" "Delete" now ++ [("recordId", .str recordID), ("prune", .bool prune)])
    auth

/-- A definition is an object, or `null` for a nil map. -/
def definitionMap (definition : Bytes) : Except String GoValue :=
  match unmarshalAny f definition with
  | some (.map m) => .ok (.map m)
  | some .nil => .ok .nil
  | _ => .error "parsing protocol definition: invalid definition"

def buildProtocolsConfigure (s : Signer) (now : String) (definition : Bytes) :
    Except String Message := do
  let defMap ← definitionMap f definition
  signGenericMessage f s (baseDescriptor "Protocols" "Configure" now ++ [("definition", defMap)]) {}

def buildProtocolsQuery (s : Signer) (now protocolURI : String) : Except String Message :=
  signGenericMessage f s
    (baseDescriptor "Protocols" "Query" now ++
      (if protocolURI = "" then [] else [("filter", .map [("protocol", .str protocolURI)])])) {}

/-! ### Writes -/

structure RecordsWriteOptions where
  protocol : String
  protocolPath : String
  schema : String := ""
  recipient : String := ""
  tags : List (String × GoValue) := []
  data : Bytes
  dataFormat : String
  published : Option Bool := none
  permissionGrantID : String := ""
  delegatedGrant : Bytes := []
  recordID : String := ""
  dateCreated : String := ""
  parentContextID : String := ""
  protocolRole : String := ""
  squash : Bool := false
  encryptionRecipients : List KeyEncryptionInput := []

structure BuildRecordsWriteResult where
  message : Message
  wireData : Bytes

def keyEncryptionValue (entry : KeyEncryption) : GoValue :=
  .typedMap ([("algorithm", .str entry.algorithm), ("encryptedKey", .str entry.encryptedKey),
    ("ephemeralPublicKey", match entry.ephemeralPublicKey with
      | none => .nil
      | some jwk => .typedMap [("kty", .str jwk.kty), ("crv", .str jwk.crv), ("x", .str jwk.x)]),
    ("keyId", .str entry.keyID), ("derivationScheme", .str entry.derivationScheme)] ++
    optionalText "protocol" entry.protocol ++ optionalText "rolePath" entry.rolePath)

/-- The envelope as its JSON is written. -/
def encryptionValue (enc : Encryption) : GoValue :=
  .typedMap [("algorithm", .str enc.algorithm),
    ("initializationVector", .str enc.initializationVector),
    ("keyEncryption", .typedSlice (enc.keyEncryption.map keyEncryptionValue))]

/-- `structToMap`. -/
def structToMap (v : GoValue) : Except String GoValue :=
  match reread f v with
  | some m => .ok m
  | none => .error "json: unsupported value"

/-- The last segment of the parent's context. -/
def parentIDOf (parentContextID : String) : String :=
  (splitSlashes parentContextID).getLastD ""

/-- The descriptor of a write. -/
def writeDescriptor (opts : RecordsWriteOptions) (now dataCID : String) (dataSize : Nat) :
    List (String × GoValue) :=
  [("interface", .str "Records"), ("method", .str "Write"), ("protocol", .str opts.protocol),
    ("protocolPath", .str opts.protocolPath), ("dataCid", .str dataCID), ("dataSize", .int dataSize),
    ("dateCreated", .str (if opts.dateCreated = "" then now else opts.dateCreated)),
    ("messageTimestamp", .str now), ("dataFormat", .str opts.dataFormat)] ++
  optionalText "schema" opts.schema ++ optionalText "recipient" opts.recipient ++
  (if opts.parentContextID = "" then []
    else [("parentId", .str (parentIDOf opts.parentContextID))]) ++
  optionalMap "tags" opts.tags ++
  (match opts.published with
    | none => []
    | some true => [("published", .bool true), ("datePublished", .str now)]
    | some false => [("published", .bool false)]) ++
  (if opts.squash then [("squash", .bool true)] else []) ++
  optionalText "permissionGrantId" opts.permissionGrantID

/-- The data on the wire, with the envelope where it is encrypted. -/
def wireDataOf (c : Primitives) (entropy : Entropy) (opts : RecordsWriteOptions) :
    Except String (Bytes × Option Encryption) :=
  if opts.encryptionRecipients = [] then .ok (opts.data, none)
  else do
    let (ct, enc) ← (encryptData c entropy opts.data opts.encryptionRecipients).mapError
      ("encrypting data: " ++ ·)
    return (ct, some enc)

/-- The CID of the envelope, empty without one. -/
def encryptionCIDOf : Option Encryption → Except String String
  | none => .ok ""
  | some enc => do
    let encMap ← (structToMap f (encryptionValue enc)).mapError ("converting encryption to map: " ++ ·)
    return computeCID f encMap

/-- The author is the grantor of a delegated grant, or the signer. -/
def authorOf (s : Signer) (grant : Bytes) : Except String String :=
  if grant = [] then .ok s.did else delegatedGrantAuthor f grant

def buildRecordsWrite (c : Primitives) (entropy : Entropy) (s : Signer) (now : String)
    (opts : RecordsWriteOptions) : Except String BuildRecordsWriteResult :=
  if opts.protocol = "" ∨ opts.protocolPath = "" then .error "protocol and protocolPath are required"
  else if opts.dataFormat = "" then .error "data and dataFormat are required"
  else if opts.permissionGrantID ≠ "" ∧ opts.delegatedGrant ≠ [] then
    .error errGrantInvocationConflict
  else do
    let grantID ← delegatedGrantID f opts.delegatedGrant
    let authorDID ← authorOf f s opts.delegatedGrant
    let (wireData, encryption) ← wireDataOf c entropy opts
    let desc := writeDescriptor opts now (computeDataCID f wireData) wireData.length
    let recordID :=
      if opts.recordID = "" then computeCID f (.map (desc ++ [("author", .str authorDID)]))
      else opts.recordID
    let contextID :=
      if opts.parentContextID = "" then recordID else opts.parentContextID ++ "/" ++ recordID
    let encCID ← encryptionCIDOf f encryption
    let payload := recordsWriteSignaturePayload (computeCID f (.map desc)) recordID contextID encCID
      opts.permissionGrantID grantID opts.protocolRole
    return { message := { recordID, contextID, descriptor := normalizeFields desc, encryption
                          authorization := { signature := signJWS payload s.keyID s.sign
                                             authorDelegatedGrant := opts.delegatedGrant } }
             wireData }

end Meshd.Dwn

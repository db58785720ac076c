import Meshd.Control.Rollback
import Meshd.Did.Jwk
import Meshd.Engine.Convert
import Meshd.Control.MapNodes

namespace Meshd.Engine

open Meshd.Framework Meshd.Control Meshd.Did

def maxExactInteger : Nat := 9007199254740991

def nodeIdentityForDID (p : IdentityPrimitives) (networkRecordID did : String) : Nat × String :=
  let digest := p.sha256 ("meshd node identity v1\x00" ++ networkRecordID ++ "\x00" ++ did)
  let id := ofBigEndian (digest.take 8) &&& maxExactInteger
  (if id = 0 then 1 else id, "dwn-" ++ hexEncode (digest.take 16))

/-- The platform with the keys and identities that the repository derives itself. -/
def withIdentities (p : IdentityPrimitives) (platform : Platform) : Platform :=
  { platform with
    deriveKey := fun did => (deriveX25519PublicKey p did).toOption.map fun key =>
      String.ofList (Base64.encodePadded Base64.std key.val)
    nodeIdentityForDID := nodeIdentityForDID p }

/-! ### Maps over the loads of a client -/

/-- A map that the converter accepted, with the cached state and the time it was built from. -/
structure AcceptedMap where
  now : Time
  cached : CachedState
  network : NetworkMap

/-- `mapResponseFunc`: a load, and the conversion of its response. -/
def acceptedMap (cfg : ClientConfig) (conv : Converter) (env : LoadEnv) (s : Loader) :
    Option AcceptedMap :=
  match loadState cfg env s with
  | .error _ _ => none
  | .ok resp s' =>
    match conv.convert (some resp) with
    | .error _ => none
    | .ok network => some { now := env.now, cached := s'.cached, network }

/-- The maps of a run of loads. -/
def acceptedMaps (cfg : ClientConfig) (conv : Converter) (s : Loader) : List LoadEnv → List AcceptedMap
  | [] => []
  | env :: rest => (acceptedMap cfg conv env s).toList ++ acceptedMaps cfg conv (s.load cfg env) rest

theorem acceptedMap_eq_some {cfg : ClientConfig} {conv : Converter} {env : LoadEnv} {s : Loader}
    {a : AcceptedMap} (h : acceptedMap cfg conv env s = some a) :
    ∃ resp, (buildMapResponse cfg.platform cfg.networkRecordID cfg.selfDID a.now a.cached).1 =
      some resp ∧ conv.convert (some resp) = .ok a.network := by
  simp only [acceptedMap] at h
  split at h
  · cases h
  · next resp s' hload =>
    split at h
    · cases h
    · next network hconv =>
      obtain rfl := Option.some.inj h
      refine ⟨resp, ?_, hconv⟩
      rw [loadState_ok, loadSteps, run_bind_ok] at hload
      obtain ⟨_, s₁, -, hload⟩ := hload
      rw [run_bind_ok] at hload
      obtain ⟨_, s₂, -, hload⟩ := hload
      rw [run_bind_ok] at hload
      obtain ⟨_, s₃, -, hload⟩ := hload
      obtain ⟨hbuild, n, rfl⟩ := finishLoad_ok hload
      exact hbuild

theorem exists_of_mem_acceptedMaps {cfg : ClientConfig} {conv : Converter} {s : Loader}
    {envs : List LoadEnv} {a : AcceptedMap} (h : a ∈ acceptedMaps cfg conv s envs) :
    ∃ resp, (buildMapResponse cfg.platform cfg.networkRecordID cfg.selfDID a.now a.cached).1 =
      some resp ∧ conv.convert (some resp) = .ok a.network := by
  induction envs generalizing s with
  | nil => cases h
  | cons env rest ih =>
    rw [acceptedMaps, List.mem_append, Option.mem_toList] at h
    obtain hfirst | hrest := h
    · exact acceptedMap_eq_some hfirst
    · exact ih hrest

section Identity

variable (p : IdentityPrimitives) (platform : Platform) (networkRecordID selfDID : String)

/-- A client with the repository's identities. -/
def identityConfig : ClientConfig where
  platform := withIdentities p platform
  networkRecordID
  selfDID

/-- A DID that a map is to show: this node's own, or one with a record that has not expired and an
address. -/
def Present (a : AcceptedMap) (did : String) : Prop :=
  did = selfDID ∨ ∃ pointer, ⟨did, pointer⟩ ∈ a.cached.nodes.entries ∧
    nodeRecordExpired platform (a.cached.record pointer) a.now = false ∧
    Addressed platform a.cached.network did (a.cached.record pointer)

/-- The two DIDs carry one key. -/
def SameKey (did did' : String) : Prop :=
  ∃ key, deriveX25519PublicKey p did = .ok key ∧ deriveX25519PublicKey p did' = .ok key

/-- A map as the engine wants it. -/
structure StableMap (nm : NetworkMap) : Prop where
  ids : (nm.nodes.map (·.id)).Nodup
  stableIDs : (nm.nodes.map (·.stableID)).Nodup
  keys : (nm.nodes.map (·.key)).Nodup
  range : ∀ t ∈ nm.nodes, 1 ≤ t.id ∧ t.id ≤ maxExactInteger
  sorted : nm.peers.Pairwise fun t t' => t.id < t'.id
  self : nm.selfNode.id = (nodeIdentityForDID p networkRecordID selfDID).1
  notSelf : ∀ t ∈ nm.peers, t.id ≠ (nodeIdentityForDID p networkRecordID selfDID).1

/-- Every map is as it should be, and a key has one ID in all of them. -/
def StableMaps (maps : List AcceptedMap) : Prop :=
  (∀ a ∈ maps, StableMap p networkRecordID selfDID a.network) ∧
  ∀ a ∈ maps, ∀ a' ∈ maps, ∀ t ∈ a.network.nodes, ∀ t' ∈ a'.network.nodes,
    t.key = t'.key → t.id = t'.id

/-- No two DIDs that the maps are to show carry one key. -/
def OneDIDPerKey (maps : List AcceptedMap) : Prop :=
  ∀ a ∈ maps, ∀ a' ∈ maps, ∀ did did', Present platform selfDID a did →
    Present platform selfDID a' did' → SameKey p did did' → did = did'

/-- No two DIDs that the maps are to show have one ID. -/
def OneDIDPerID (maps : List AcceptedMap) : Prop :=
  ∀ a ∈ maps, ∀ a' ∈ maps, ∀ did did', Present platform selfDID a did →
    Present platform selfDID a' did' →
    (nodeIdentityForDID p networkRecordID did).1 = (nodeIdentityForDID p networkRecordID did').1 →
    did = did'

variable {p platform networkRecordID selfDID}

theorem nodeIdentityForDID_range (networkRecordID did : String) :
    1 ≤ (nodeIdentityForDID p networkRecordID did).1 ∧
      (nodeIdentityForDID p networkRecordID did).1 ≤ maxExactInteger := by
  simp only [nodeIdentityForDID]
  split_ifs with hzero
  · exact ⟨le_refl 1, by decide⟩
  · exact ⟨Nat.one_le_iff_ne_zero.mpr hzero, Nat.and_le_right⟩

/-- The key of a node, read back by the converter, is the one its DID carries. -/
theorem parseWireGuardKey_deriveKey (platform : Platform) {did : String} {key : Buffer 32} :
    ((withIdentities p platform).deriveKey did).getD "" ≠ "" ∧
        parseWireGuardKey (((withIdentities p platform).deriveKey did).getD "") = .ok key ↔
      deriveX25519PublicKey p did = .ok key := by
  cases hderive : deriveX25519PublicKey p did with
  | error e => simp [withIdentities, hderive, Except.toOption]
  | ok key' =>
    have htext : ((withIdentities p platform).deriveKey did).getD "" =
        String.ofList (Base64.encodePadded Base64.std key'.val) := by
      simp [withIdentities, hderive, Except.toOption]
    have hparse := parseWireGuardKey_encodePadded key'
    rw [htext, hparse]
    refine ⟨fun h => h.2, fun h => ⟨?_, h⟩⟩
    intro hempty
    rw [hempty] at hparse
    cases hparse

/-- Where the nodes of an accepted map come from. -/
theorem exists_did {a : AcceptedMap} {resp : MapResponse} {conv : Converter}
    (hbuild : (buildMapResponse (withIdentities p platform) networkRecordID selfDID a.now a.cached).1 =
      some resp)
    (hconv : conv.convert (some resp) = .ok a.network) {t : TailNode} (ht : t ∈ a.network.nodes) :
    ∃ did, Present platform selfDID a did ∧ deriveX25519PublicKey p did = .ok t.key ∧
      t.id = (nodeIdentityForDID p networkRecordID did).1 := by
  obtain ⟨⟨self, -, -, hnode⟩, hpeers⟩ := buildMapResponse_nodes hbuild
  obtain ⟨n, hn, hkey, key, hparse, rfl⟩ := Converter.exists_of_mem_nodes hconv ht
  have hfrom : ∃ did rec, Present platform selfDID a did ∧
      n = mapNode (withIdentities p platform) networkRecordID a.now a.cached did rec := by
    obtain rfl | hn := List.mem_cons.mp hn
    · exact ⟨selfDID, _, .inl rfl, hnode⟩
    · obtain ⟨did, pointer, hmem, hexp, -, haddr, hn⟩ := (hpeers n).mp hn
      exact ⟨did, _, .inr ⟨pointer, hmem, hexp, haddr⟩, hn⟩
  obtain ⟨did, rec', hpresent, rfl⟩ := hfrom
  obtain ⟨-, hid, hkeytext⟩ := mapNode_same (withIdentities p platform) networkRecordID a.now
    a.cached did rec'
  rw [hkeytext] at hkey hparse
  exact ⟨did, hpresent, (parseWireGuardKey_deriveKey platform).mp ⟨hkey, hparse⟩, hid⟩

/-- A DID with a key that a map is to show is shown. -/
theorem exists_node {a : AcceptedMap} {resp : MapResponse} {conv : Converter}
    (hbuild : (buildMapResponse (withIdentities p platform) networkRecordID selfDID a.now a.cached).1 =
      some resp)
    (hconv : conv.convert (some resp) = .ok a.network) {did : String} {key : Buffer 32}
    (hpresent : Present platform selfDID a did) (hderive : deriveX25519PublicKey p did = .ok key) :
    ∃ t ∈ a.network.nodes, t.id = (nodeIdentityForDID p networkRecordID did).1 ∧ t.key = key := by
  obtain ⟨⟨self, -, -, hnode⟩, hpeers⟩ := buildMapResponse_nodes hbuild
  have hshown : ∃ rec, mapNode (withIdentities p platform) networkRecordID a.now a.cached did rec ∈
      resp.node :: resp.peers := by
    by_cases hself : did = selfDID
    · exact ⟨_, by rw [hself, ← hnode]; exact List.mem_cons_self⟩
    · obtain ⟨pointer, hmem, hexp, haddr⟩ := hpresent.resolve_left hself
      exact ⟨_, List.mem_cons_of_mem _
        ((hpeers _).mpr ⟨did, pointer, hmem, hexp, hself, haddr, rfl⟩)⟩
  obtain ⟨rec', hmem⟩ := hshown
  obtain ⟨-, hid, hkeytext⟩ := mapNode_same (withIdentities p platform) networkRecordID a.now
    a.cached did rec'
  obtain ⟨hkey, hparse⟩ := (parseWireGuardKey_deriveKey platform).mpr hderive
  rw [← hkeytext] at hkey hparse
  obtain ⟨t, ht, hidt, hkeyt⟩ := Converter.exists_mem_nodes hconv hmem hkey hparse
  exact ⟨t, ht, hidt.trans hid, hkeyt⟩

/-- An accepted map is as it should be wherever a key has one ID in it. -/
theorem stableMap_of_keys {a : AcceptedMap} {resp : MapResponse} {conv : Converter}
    (hbuild : (buildMapResponse (withIdentities p platform) networkRecordID selfDID a.now a.cached).1 =
      some resp)
    (hconv : conv.convert (some resp) = .ok a.network)
    (hkeys : ∀ t ∈ a.network.nodes, ∀ t' ∈ a.network.nodes, t.key = t'.key → t.id = t'.id) :
    StableMap p networkRecordID selfDID a.network := by
  obtain ⟨hvalid, ⟨-, key, -, hself⟩, hpeers⟩ := Converter.convert_ok hconv
  obtain ⟨-, hdistinct⟩ := validateNodeIdentities_ok hvalid
  have hids : a.network.nodes.Pairwise fun t t' => t.id ≠ t'.id := by
    refine Converter.pairwise_nodes hconv (fun h => h.symm) hdistinct ?_
    rintro n n' _ _ hne ⟨-, _, -, rfl⟩ ⟨-, _, -, rfl⟩
    exact hne.1
  have hstable : a.network.nodes.Pairwise fun t t' => t.stableID ≠ t'.stableID := by
    refine Converter.pairwise_nodes hconv (fun h => h.symm) hdistinct ?_
    rintro n n' _ _ hne ⟨-, _, -, rfl⟩ ⟨-, _, -, rfl⟩
    exact hne.2
  have hselfID : a.network.selfNode.id = (nodeIdentityForDID p networkRecordID selfDID).1 := by
    obtain ⟨⟨self, -, -, hnode⟩, -⟩ := buildMapResponse_nodes hbuild
    rw [hself, hnode]
    exact (mapNode_same (withIdentities p platform) networkRecordID a.now a.cached selfDID _).2.1
  refine ⟨List.pairwise_map.mpr hids, List.pairwise_map.mpr hstable, List.pairwise_map.mpr ?_, ?_, ?_,
    hselfID, ?_⟩
  · exact hids.imp_of_mem fun ht ht' hne hkey => hne (hkeys _ ht _ ht' hkey)
  · intro t ht
    obtain ⟨did, -, -, hid⟩ := exists_did hbuild hconv ht
    rw [hid]
    exact nodeIdentityForDID_range networkRecordID did
  · have hle : a.network.peers.Pairwise fun t t' => t.id ≤ t'.id := by
      rw [hpeers]
      exact List.pairwise_insertionSort (fun t t' : TailNode => t.id ≤ t'.id) _
    exact (hle.and (List.pairwise_cons.mp hids).2).imp fun h => lt_of_le_of_ne h.1 h.2
  · intro t ht hid
    exact (List.pairwise_cons.mp hids).1 t ht (hselfID.trans hid.symm)

/-- The maps of a run are stable where no two of its DIDs carry one key. Where the IDs of its DIDs
differ, they are stable only then. -/
theorem acceptedMaps_stable (p : IdentityPrimitives) (platform : Platform)
    (networkRecordID selfDID : String) (conv : Converter) (s : Loader) (envs : List LoadEnv) :
    let maps := acceptedMaps (identityConfig p platform networkRecordID selfDID) conv s envs
    (OneDIDPerKey p platform selfDID maps → StableMaps p networkRecordID selfDID maps) ∧
    (OneDIDPerID p platform networkRecordID selfDID maps →
      StableMaps p networkRecordID selfDID maps → OneDIDPerKey p platform selfDID maps) := by
  intro maps
  have hfrom : ∀ a ∈ maps, ∃ resp,
      (buildMapResponse (withIdentities p platform) networkRecordID selfDID a.now a.cached).1 =
        some resp ∧ conv.convert (some resp) = .ok a.network :=
    fun a ha => exists_of_mem_acceptedMaps ha
  constructor
  · intro hone
    have hacross : ∀ a ∈ maps, ∀ a' ∈ maps, ∀ t ∈ a.network.nodes, ∀ t' ∈ a'.network.nodes,
        t.key = t'.key → t.id = t'.id := by
      intro a ha a' ha' t ht t' ht' hkey
      obtain ⟨resp, hbuild, hconv⟩ := hfrom a ha
      obtain ⟨resp', hbuild', hconv'⟩ := hfrom a' ha'
      obtain ⟨did, hpresent, hderive, hid⟩ := exists_did hbuild hconv ht
      obtain ⟨did', hpresent', hderive', hid'⟩ := exists_did hbuild' hconv' ht'
      rw [← hkey] at hderive'
      obtain rfl := hone a ha a' ha' did did' hpresent hpresent' ⟨t.key, hderive, hderive'⟩
      exact hid.trans hid'.symm
    refine ⟨fun a ha => ?_, hacross⟩
    obtain ⟨resp, hbuild, hconv⟩ := hfrom a ha
    exact stableMap_of_keys hbuild hconv (hacross a ha a ha)
  · rintro hids ⟨-, hacross⟩ a ha a' ha' did did' hpresent hpresent' ⟨key, hderive, hderive'⟩
    obtain ⟨resp, hbuild, hconv⟩ := hfrom a ha
    obtain ⟨resp', hbuild', hconv'⟩ := hfrom a' ha'
    obtain ⟨t, ht, hid, hkey⟩ := exists_node hbuild hconv hpresent hderive
    obtain ⟨t', ht', hid', hkey'⟩ := exists_node hbuild' hconv' hpresent' hderive'
    refine hids a ha a' ha' did did' hpresent hpresent' ?_
    rw [← hid, ← hid']
    exact hacross a ha a' ha' t ht t' ht' (hkey.trans hkey'.symm)

end Identity

/-- The base point of the Edwards curve as a JWK and as a DID. -/
def basePointJWK : JWK := ⟨"OKP", "Ed25519", "WGZmZmZmZmZmZmZmZmZmZmZmZmZmZmZmZmZmZmZmZmY"⟩

def basePointDID : String :=
  "did:jwk:eyJrdHkiOiJPS1AiLCJjcnYiOiJFZDI1NTE5IiwieCI6IldHWm1abVptWm1abVptWm1abVptWm1abVptWm1abVptWm1abVptWm1abVkifQ"

/-- The primitives at the base point, whose Montgomery form is 9. The digest of a text is its last
character first, which makes it free of collisions. -/
def basePointIdentities : IdentityPrimitives where
  sha256 text := [0, 0, 0, 0] ++ text.toList.reverse.flatMap fun ch => bigEndian 4 ch.toNat
  unmarshalJWK bytes :=
    if bytes = ascii ("\x7b\"kty\":\"OKP\",\"crv\":\"Ed25519\",\"x\":\"" ++ basePointJWK.x ++ "\"\x7d")
    then .ok basePointJWK
    else .error "invalid character"
  bytesMontgomery pub :=
    if pub = 0x58 :: List.replicate 31 0x66 then .ok ⟨9 :: List.replicate 31 0, rfl⟩
    else .error "edwards25519: invalid point encoding"

def homeConverter : Converter where
  domain := "home"
  hostPrefix := (· ++ "/32")
  parseTime := fun _ => none
  parseAddrPort := some

/-- Two node records, for a DID and for the same DID with a fragment. -/
def fragmentEnv : LoadEnv :=
  { homeEnv with
    nodes := replyWith
      [{ metadata := ⟨"bafy-alice", "bafy-network", basePointDID⟩, value := { meshIP := "10.200.0.2" } },
       { metadata := ⟨"bafy-bob", "bafy-network", basePointDID ++ "#2"⟩,
         value := { meshIP := "10.200.0.3" } }] }

def fragmentMaps : List AcceptedMap :=
  acceptedMaps (identityConfig basePointIdentities homePlatform "bafy-network" basePointDID)
    homeConverter (newDWNClient emptyMemory) [fragmentEnv]

/-- A DID with a fragment carries the key of the DID without it, and both are shown. -/
theorem fragmentMaps_shareKey :
    ¬ StableMaps basePointIdentities "bafy-network" basePointDID fragmentMaps := by
  have hshared : (fragmentMaps.any fun a => a.network.nodes.any fun t => a.network.nodes.any fun t' =>
      decide (t.key = t'.key) && decide (t.id ≠ t'.id)) = true := by decide +kernel
  rintro ⟨-, hacross⟩
  simp only [List.any_eq_true, Bool.and_eq_true, decide_eq_true_eq] at hshared
  obtain ⟨a, ha, t, ht, t', ht', hkey, hne⟩ := hshared
  exact hne (hacross a ha a ha t ht t' ht' hkey)

/-- Identities whose keys are the bytes in the DID. -/
def plainIdentities : IdentityPrimitives where
  sha256 := basePointIdentities.sha256
  unmarshalJWK bytes := .ok ⟨"OKP", "Ed25519", Base64.rawURLEncode (Buffer.copy 32 bytes).val⟩
  bytesMontgomery pub := .ok (Buffer.copy 32 pub)

def pairEnv : LoadEnv :=
  { homeEnv with
    nodes := replyWith
      [{ metadata := ⟨"bafy-alice", "bafy-network", "did:jwk:AQ"⟩, value := { meshIP := "10.200.0.2" } },
       { metadata := ⟨"bafy-bob", "bafy-network", "did:jwk:Ag"⟩, value := { meshIP := "10.200.0.3" } }] }

def pairMaps : List AcceptedMap :=
  acceptedMaps (identityConfig plainIdentities homePlatform "bafy-network" "did:jwk:AQ")
    homeConverter (newDWNClient emptyMemory) [pairEnv, pairEnv]

theorem pairMaps_stable :
    (pairMaps.map fun a => a.network.nodes.length) = [2, 2] ∧
      StableMaps plainIdentities "bafy-network" "did:jwk:AQ" pairMaps := by
  -- Both maps are evaluated once, for their nodes and for the records they are built from.
  have hmaps : (pairMaps.map fun a => (a.network.nodes.length, a.cached.nodes.entries.map (·.1))) =
      List.replicate 2 (2, ["did:jwk:Ag", "did:jwk:AQ"]) := by decide +kernel
  have hlengths := congrArg (List.map Prod.fst) hmaps
  rw [List.map_map] at hlengths
  refine ⟨hlengths, (acceptedMaps_stable plainIdentities homePlatform "bafy-network" "did:jwk:AQ"
    homeConverter (newDWNClient emptyMemory) [pairEnv, pairEnv]).1 ?_⟩
  have hrecords : ∀ a ∈ pairMaps, ∀ e ∈ a.cached.nodes.entries,
      e.1 = "did:jwk:AQ" ∨ e.1 = "did:jwk:Ag" := by
    intro a ha e he
    have hrow := List.mem_map_of_mem (f := fun a : AcceptedMap =>
      (a.network.nodes.length, a.cached.nodes.entries.map (·.1))) ha
    rw [hmaps] at hrow
    have hdids := (Prod.mk.inj (List.eq_of_mem_replicate hrow)).2
    have hdid : e.1 ∈ a.cached.nodes.entries.map (·.1) := List.mem_map_of_mem he
    rw [hdids] at hdid
    simpa [or_comm] using hdid
  have hpresent : ∀ a ∈ pairMaps, ∀ did, Present homePlatform "did:jwk:AQ" a did →
      did = "did:jwk:AQ" ∨ did = "did:jwk:Ag" := by
    rintro a ha did (rfl | ⟨pointer, hmem, -⟩)
    · exact .inl rfl
    · exact hrecords a ha _ hmem
  have hdiffer : ¬ SameKey plainIdentities "did:jwk:AQ" "did:jwk:Ag" := by
    rintro ⟨key, halice, hbob⟩
    have hkeys : deriveX25519PublicKey plainIdentities "did:jwk:AQ" ≠
        deriveX25519PublicKey plainIdentities "did:jwk:Ag" := by decide +kernel
    exact hkeys (halice.trans hbob.symm)
  intro a ha a' ha' did did' hdid hdid' hsame
  obtain rfl | rfl := hpresent a ha did hdid
  · obtain rfl | rfl := hpresent a' ha' did' hdid'
    · rfl
    · exact absurd hsame hdiffer
  · obtain rfl | rfl := hpresent a' ha' did' hdid'
    · obtain ⟨key, h, h'⟩ := hsame
      exact absurd ⟨key, h', h⟩ hdiffer
    · rfl

end Meshd.Engine

import Meshd.Control.Acl
import Mathlib.Data.String.Basic
import Mathlib.Data.List.Sort

namespace Meshd.Control

open Meshd.Framework

/-- The payload of the network record. -/
structure NetworkConfig where
  name : String
  meshCIDR : String
  dnsServers : List String := []
  magicDNSSuffix : String := ""
deriving DecidableEq

structure MemberRecord where
  did : String := ""
  label : String := ""
  addedAt : String := ""
  recordID : String := ""
deriving DecidableEq

structure NodeInfoData where
  hostname : String := ""
  os : String := ""
  capabilities : List String := []
deriving DecidableEq

structure PublicEndpoint where
  address : String
  port : Int
deriving DecidableEq

structure EndpointData where
  publicEndpoints : List PublicEndpoint := []
  localEndpoints : List String := []
  preferredDERP : Int := 0
  discoKey : String := ""
  updatedAt : String := ""
deriving DecidableEq

/-- A node record, with what its child records have added to it. -/
structure NodeRecord where
  did : String := ""
  meshIP : String := ""
  allowedIPs : List String := []
  expiresAt : String := ""
  label : String := ""
  memberDID : String := ""
  ownerDID : String := ""
  info : Option NodeInfoData := none
  endpoints : List EndpointData := []
  recordID : String := ""
  memberRecordID : String := ""
deriving DecidableEq

structure RelayData where
  url : String
  region : String
  stunPort : Int := 0
deriving DecidableEq

namespace NodeRecord

def normalizeOwnerDID (n : NodeRecord) : NodeRecord :=
  let n := if n.ownerDID = "" then { n with ownerDID := n.memberDID } else n
  if n.memberDID = "" then { n with memberDID := n.ownerDID } else n

def effectiveOwnerDID (n : NodeRecord) : String :=
  if n.ownerDID ≠ "" then n.ownerDID else n.memberDID

end NodeRecord

/-- A node of the network map. An invalid address is `none`, and a time of `0` is the zero time. -/
structure Node where
  id : Nat
  stableID : String
  name : String
  label : String
  did : String
  memberDID : String
  memberRecordID : String
  expiresAt : String
  key : String
  discoKey : String
  endpoints : List String
  meshIP : Option String
  allowedIPs : List String
  preferredDERP : Int
  online : Bool
  lastSeen : Time
  os : String
  capabilities : List String
deriving DecidableEq

structure DERPNode where
  name : String
  regionID : Nat
  hostName : String
  derpPort : Int
  stunPort : Int
deriving DecidableEq

structure DERPRegion where
  regionID : Nat
  regionCode : String
  regionName : String
  nodes : List DERPNode
deriving DecidableEq

structure DNSConfig where
  resolvers : List String
  magicDNSSuffix : String
deriving DecidableEq

/-- A snapshot of the mesh as the engine gets it. -/
structure MapResponse where
  node : Node
  peers : List Node
  derpMap : List DERPRegion
  packetFilter : List FilterRule
  dnsConfig : Option DNSConfig
deriving DecidableEq

/-- What the control client takes from other packages: address and time parsing, the hash-based
identities, key derivation and address allocation. An address or prefix is given by its text. -/
structure Platform where
  parseAddr : String → Option String
  parsePrefix : String → Option String
  hostPrefix : String → String
  parseTime : String → Option Time
  allocateMeshIP : String → String → Option String
  deriveKey : String → Option String
  nodeIdentityForDID : String → String → Nat × String

/-- What a map is built from: the cached fields of the client, and the node records its node map
points to. -/
structure CachedState where
  network : Option NetworkConfig
  nodes : GoMap Nat
  record : Nat → NodeRecord
  relays : List RelayData
  acl : Option ACLPolicyData

def defaultPeerStaleThreshold : Duration := 5 * minute

/-- The time of the newest readable endpoint update. -/
def lastSeen (platform : Platform) (endpoints : List EndpointData) : Time :=
  endpoints.foldl (fun seen ep =>
    if ep.updatedAt = "" then seen
    else
      match platform.parseTime ep.updatedAt with
      | some t => if seen < t then t else seen
      | none => seen) 0

def nodeRecordToNodeWithThreshold (platform : Platform) (id : Nat) (nodeDID : String)
    (rec : NodeRecord) (staleThreshold : Duration) (now : Time) : Node :=
  let name := (rec.info.map (·.hostname)).getD ""
  let meshIP := platform.parseAddr rec.meshIP
  let seen := lastSeen platform rec.endpoints
  let preferredDERP := rec.endpoints.foldl (fun derp ep =>
    if ep.preferredDERP ≠ 0 then ep.preferredDERP else derp) 0
  { id
    stableID := ""
    name := if name = "" ∧ rec.label ≠ "" then rec.label else name
    label := rec.label
    did := nodeDID
    memberDID := rec.effectiveOwnerDID
    memberRecordID := rec.memberRecordID
    expiresAt := rec.expiresAt
    key := (platform.deriveKey nodeDID).getD ""
    discoKey := rec.endpoints.foldl (fun key ep => if ep.discoKey ≠ "" then ep.discoKey else key) ""
    endpoints := rec.endpoints.flatMap fun ep =>
      ep.publicEndpoints.map (fun pub => pub.address ++ ":" ++ toString pub.port) ++
        ep.localEndpoints
    meshIP
    allowedIPs := (meshIP.map platform.hostPrefix).toList ++
      rec.allowedIPs.filterMap platform.parsePrefix
    preferredDERP := if preferredDERP = 0 then 1 else preferredDERP
    online := decide (seen ≠ 0) && decide (timeSub now seen ≤ staleThreshold)
    lastSeen := seen
    os := (rec.info.map (·.os)).getD ""
    capabilities := (rec.info.map (·.capabilities)).getD [] }

def nodeRecordExpired (platform : Platform) (rec : NodeRecord) (now : Time) : Bool :=
  if rec.expiresAt = "" then false
  else
    match platform.parseTime rec.expiresAt with
    | some expiresAt => expiresAt < now
    | none => false

def applyFallbackMeshIP (platform : Platform) (network : Option NetworkConfig) (node : Node) :
    Node :=
  match node.meshIP, network with
  | none, some network =>
    if network.meshCIDR = "" then node
    else
      match platform.allocateMeshIP network.meshCIDR node.did with
      | none => node
      | some ip =>
        { node with
          meshIP := some ip
          allowedIPs :=
            if node.allowedIPs = [] then [platform.hostPrefix ip] else node.allowedIPs }
  | _, _ => node

/-- The public relays used where the network has none of its own. -/
def defaultDERPRegions : List DERPRegion :=
  [⟨1, "nyc", "New York City", [⟨"1a", 1, "derp1.tailscale.com", 443, 3478⟩]⟩,
    ⟨2, "sfo", "San Francisco", [⟨"2a", 2, "derp2.tailscale.com", 443, 3478⟩]⟩,
    ⟨3, "sin", "Singapore", [⟨"3a", 3, "derp3.tailscale.com", 443, 3478⟩]⟩,
    ⟨4, "fra", "Frankfurt", [⟨"4a", 4, "derp4.tailscale.com", 443, 3478⟩]⟩]

def buildDERPMap (relays : List RelayData) : List DERPRegion :=
  let regions := relays.mapIdx fun i relay =>
    let regionID := i + 1
    { regionID
      regionCode := relay.region
      regionName := relay.region
      nodes := [⟨"relay-" ++ toString regionID, regionID, relay.url, 443, relay.stunPort⟩] }
  if regions = [] then defaultDERPRegions else regions

def buildDNSConfig (network : Option NetworkConfig) : Option DNSConfig :=
  network.map fun network =>
    { resolvers := network.dnsServers
      magicDNSSuffix := if network.magicDNSSuffix = "" then "mesh.local" else network.magicDNSSuffix }

section Build
variable (platform : Platform) (networkRecordID selfDID : String) (now : Time) (c : CachedState)

/-- A node as it enters the map. -/
def mapNode (did : String) (rec : NodeRecord) : Node :=
  let identity := platform.nodeIdentityForDID networkRecordID did
  let node := nodeRecordToNodeWithThreshold platform identity.1 did rec
    defaultPeerStaleThreshold now
  applyFallbackMeshIP platform c.network { node with stableID := identity.2 }

/-- What the loop over the nodes has put together. -/
structure MapNodes where
  self : Option Node := none
  peers : List Node := []
  dropped : Nat := 0

/-- The loop over the nodes. It stops where this node is found to be expired. -/
def mapNodes (acc : MapNodes) : List (String × NodeRecord) → Bool × MapNodes
  | [] => (true, acc)
  | (did, rec) :: rest =>
    if nodeRecordExpired platform rec now then
      if did = selfDID then (false, acc) else mapNodes acc rest
    else
      let node := mapNode platform networkRecordID now c did rec
      if did ≠ selfDID ∧ node.meshIP = none then
        mapNodes { acc with dropped := acc.dropped + 1 } rest
      else if did = selfDID then mapNodes { acc with self := some node } rest
      else mapNodes { acc with peers := acc.peers ++ [node] } rest

/-- The records by DID. -/
def sortedNodes : List (String × NodeRecord) :=
  (c.nodes.entries.insertionSort fun a b => a.1 ≤ b.1).map fun e => (e.1, c.record e.2)

/-- The addresses of the cached nodes, as the filter knows them. -/
def nodeAddress : String → Option String :=
  didToIP platform.allocateMeshIP ((c.network.map (·.meshCIDR)).getD "")
    fun did => (c.nodes.lookup did).map fun p => (c.record p).meshIP

/-- The filter of the map: the policy's where there is one, otherwise everything. -/
def packetFilter : List FilterRule :=
  match c.acl with
  | some acl => buildFilterRules (some acl) (nodeAddress platform c)
  | none => defaultFilterRules

/-- The map, unless this node is missing or expired, with the number of peers dropped. -/
def buildMapResponse : Option MapResponse × Nat :=
  let (finished, acc) := mapNodes platform networkRecordID selfDID now c {} (sortedNodes c)
  match finished, acc.self with
  | true, some node =>
    (some { node
            peers := acc.peers
            derpMap := buildDERPMap c.relays
            packetFilter := packetFilter platform c
            dnsConfig := buildDNSConfig c.network }, acc.dropped)
  | _, _ => (none, acc.dropped)

variable {platform networkRecordID selfDID now c} in
theorem buildMapResponse_packetFilter {resp : MapResponse}
    (h : (buildMapResponse platform networkRecordID selfDID now c).1 = some resp) :
    resp.packetFilter = packetFilter platform c := by
  simp only [buildMapResponse] at h
  split at h
  · obtain rfl := Option.some.inj h
    rfl
  · cases h

end Build

end Meshd.Control

import Meshd.Control.MapResponse
import Meshd.Framework.Bytes
import Meshd.Framework.Fallible

namespace Meshd.Engine

open Meshd.Framework Meshd.Control

/-- A node as the engine takes it. The zero key is the one of 32 zero bytes. -/
structure TailNode where
  id : Nat
  stableID : String
  name : String
  homeDERP : Int
  hostname : String
  os : String
  machineAuthorized : Bool
  online : Bool
  lastSeen : Option Time
  keyExpiry : Option Time
  key : Buffer 32
  discoKey : Buffer 32
  addresses : List String
  allowedIPs : List String
  endpoints : List String
deriving DecidableEq

/-- The DNS settings as the engine takes them. -/
structure TailDNSConfig where
  proxied : Bool
  domains : List String
  resolvers : List String
deriving DecidableEq

structure NetworkMap where
  domain : String
  selfNode : TailNode
  peers : List TailNode
  derpMap : List DERPRegion
  dns : Option TailDNSConfig
  packetFilterRules : List FilterRule
deriving DecidableEq

def NetworkMap.nodes (nm : NetworkMap) : List TailNode := nm.selfNode :: nm.peers

/-- The converter, with the parsers it uses. -/
structure Converter where
  domain : String
  magicDNSSuffix : String := "mesh.local"
  derpMapOverride : Option (List DERPRegion) := none
  hostPrefix : String → String
  parseTime : String → Option Time
  parseAddrPort : String → Option String

def zeroKey : Buffer 32 := ⟨List.replicate 32 0, rfl⟩

/-- `parseWireGuardKey` and `parseDiscoKey`, which differ in a word. -/
def parseKey (kind b64Key : String) : Except String (Buffer 32) :=
  match (Base64.decodePadded Base64.std b64Key.toList).or
      (Base64.decodeRaw Base64.std b64Key.toList) with
  | none => .error "base64 decode: illegal base64 data"
  | some raw =>
    if h : raw.length = 32 then .ok ⟨raw, h⟩
    else .error (kind ++ " key must be 32 bytes, got " ++ toString raw.length)

def parseWireGuardKey (b64Key : String) : Except String (Buffer 32) := parseKey "WireGuard" b64Key

def parseDiscoKey (b64Key : String) : Except String (Buffer 32) := parseKey "disco" b64Key

def nodeStableID (n : Node) : String :=
  if n.stableID ≠ "" then n.stableID else "dwn-" ++ toString n.id

/-- How an error names a node. -/
def nodeLabel (label : String) (n : Node) : String :=
  if n.did ≠ "" then label ++ " (DID=" ++ n.did ++ ")"
  else if n.name ≠ "" then label ++ " (name=" ++ n.name ++ ")"
  else label

/-- The loop of `validateNodeIdentities`, with what it has seen. -/
def validateNodes (seenIDs : List (Nat × String)) (seenStableIDs : List (String × String)) :
    List (String × Node) → Except String Unit
  | [] => .ok ()
  | (place, node) :: rest =>
    let label := nodeLabel place node
    if node.id = 0 then
      .error (label ++ " has invalid NodeID " ++ toString node.id ++ "; NodeIDs must be positive")
    else
      match seenIDs.lookup node.id with
      | some previous =>
        .error ("duplicate NodeID " ++ toString node.id ++ " for " ++ previous ++ " and " ++ label)
      | none =>
        match seenStableIDs.lookup (nodeStableID node) with
        | some previous =>
          .error ("duplicate StableID " ++ (nodeStableID node).quote ++ " for " ++ previous ++
            " and " ++ label)
        | none =>
          validateNodes ((node.id, label) :: seenIDs) ((nodeStableID node, label) :: seenStableIDs)
            rest

def validateNodeIdentities (resp : MapResponse) : Except String Unit :=
  validateNodes [] [] (("self node", resp.node) ::
    resp.peers.mapIdx fun i peer => ("peer " ++ toString i, peer))

namespace Converter

variable (c : Converter)

def fqdn (hostname : String) : String :=
  if hostname = "" then ""
  else hostname ++ "." ++ (if c.magicDNSSuffix = "" then "mesh.local" else c.magicDNSSuffix) ++ "."

/-- A node with a key that has been read. -/
def tailNode (n : Node) (key : Buffer 32) : TailNode where
  id := n.id
  stableID := nodeStableID n
  name := c.fqdn n.name
  homeDERP := n.preferredDERP
  hostname := n.name
  os := n.os
  machineAuthorized := true
  online := n.online
  lastSeen := if n.lastSeen = 0 then none else some n.lastSeen
  keyExpiry := if n.expiresAt = "" then none else c.parseTime n.expiresAt
  key
  discoKey := if n.discoKey = "" then zeroKey else (parseDiscoKey n.discoKey).toOption.getD zeroKey
  addresses := (n.meshIP.map c.hostPrefix).toList
  allowedIPs := if n.allowedIPs = [] then (n.meshIP.map c.hostPrefix).toList else n.allowedIPs
  endpoints := n.endpoints.filterMap c.parseAddrPort

def convertNode (n : Node) : Except String TailNode :=
  if n.key = "" then .ok (c.tailNode n zeroKey)
  else do
    let key ← (parseWireGuardKey n.key).mapError
      ("parsing WireGuard key for " ++ n.name.quote ++ ": " ++ ·)
    return c.tailNode n key

/-- A peer without a key, or with an unreadable one, is skipped. -/
def convertPeer (n : Node) : Option TailNode :=
  if n.key = "" then none else (c.convertNode n).toOption

def convertDNSConfig (dns : DNSConfig) : TailDNSConfig where
  proxied := true
  domains := if dns.magicDNSSuffix = "" then [] else [dns.magicDNSSuffix]
  resolvers := dns.resolvers

def convert (resp : Option MapResponse) : Except String NetworkMap :=
  match resp with
  | none => .error "nil MapResponse"
  | some resp => do
    (validateNodeIdentities resp).mapError ("validating node identities: " ++ ·)
    if resp.node.key = "" then
      .error ("self node has empty WireGuard key (DID=" ++ resp.node.did ++ ")")
    else
      let selfNode ← (c.convertNode resp.node).mapError ("converting self node: " ++ ·)
      return { domain := c.domain
               selfNode
               peers := (resp.peers.filterMap c.convertPeer).insertionSort fun a b => a.id ≤ b.id
               derpMap := c.derpMapOverride.getD resp.derpMap
               dns := resp.dnsConfig.map convertDNSConfig
               packetFilterRules := resp.packetFilter }

end Converter

/-! ### What an accepted map holds -/

theorem parseWireGuardKey_encodePadded (key : Buffer 32) :
    parseWireGuardKey (String.ofList (Base64.encodePadded Base64.std key.val)) = .ok key := by
  simp [parseWireGuardKey, parseKey, key.property]

theorem lookup_cons_eq_none {α β : Type} [DecidableEq α] {key key' : α} {value : β}
    {seen : List (α × β)} :
    ((key, value) :: seen).lookup key' = none ↔ key' ≠ key ∧ seen.lookup key' = none := by
  rw [List.lookup_cons]
  by_cases h : key' = key
  · simp [h]
  · rw [beq_false_of_ne h]
    simp only [ne_eq, h, not_false_eq_true, true_and]

/-- Nodes that pass the check have positive IDs, and differ in both IDs from each other and from those
seen before. -/
theorem validateNodes_ok {seenIDs : List (Nat × String)} {seenStableIDs : List (String × String)}
    {nodes : List (String × Node)} (h : validateNodes seenIDs seenStableIDs nodes = .ok ()) :
    (∀ n ∈ nodes, n.2.id ≠ 0 ∧ seenIDs.lookup n.2.id = none ∧
      seenStableIDs.lookup (nodeStableID n.2) = none) ∧
    nodes.Pairwise fun n n' => n.2.id ≠ n'.2.id ∧ nodeStableID n.2 ≠ nodeStableID n'.2 := by
  induction nodes generalizing seenIDs seenStableIDs with
  | nil => simp
  | cons first rest ih =>
    obtain ⟨place, node⟩ := first
    rw [validateNodes] at h
    split_ifs at h with hzero
    split at h
    · cases h
    · next hid =>
      split at h
      · cases h
      · next hstable =>
        obtain ⟨hrest, hpair⟩ := ih h
        have hfresh : ∀ n ∈ rest, n.2.id ≠ node.id ∧ seenIDs.lookup n.2.id = none ∧
            nodeStableID n.2 ≠ nodeStableID node ∧
            seenStableIDs.lookup (nodeStableID n.2) = none := by
          intro n hn
          obtain ⟨-, hseen, hstableSeen⟩ := hrest n hn
          rw [lookup_cons_eq_none] at hseen hstableSeen
          exact ⟨hseen.1, hseen.2, hstableSeen.1, hstableSeen.2⟩
        constructor
        · intro n hn
          obtain rfl | hn := List.mem_cons.mp hn
          · exact ⟨hzero, hid, hstable⟩
          · exact ⟨(hrest n hn).1, (hfresh n hn).2.1, (hfresh n hn).2.2.2⟩
        · refine List.pairwise_cons.mpr ⟨fun n hn => ?_, hpair⟩
          exact ⟨(hfresh n hn).1.symm, (hfresh n hn).2.2.1.symm⟩

theorem validateNodeIdentities_ok {resp : MapResponse} (h : validateNodeIdentities resp = .ok ()) :
    (∀ n ∈ resp.node :: resp.peers, n.id ≠ 0) ∧
    (resp.node :: resp.peers).Pairwise fun n n' =>
      n.id ≠ n'.id ∧ nodeStableID n ≠ nodeStableID n' := by
  have hnodes : (("self node", resp.node) ::
      resp.peers.mapIdx fun i peer => ("peer " ++ toString i, peer)).map Prod.snd =
        resp.node :: resp.peers := by
    rw [List.map_cons]
    congr 1
    apply List.ext_getElem <;> simp
  obtain ⟨hpos, hpair⟩ := validateNodes_ok h
  rw [← hnodes]
  refine ⟨?_, List.pairwise_map.mpr hpair⟩
  intro n hn
  obtain ⟨labelled, hl, rfl⟩ := List.mem_map.mp hn
  exact (hpos labelled hl).1

namespace Converter

variable {c : Converter}

/-- The engine's node for a node whose key can be read. -/
def Converted (c : Converter) (n : Node) (t : TailNode) : Prop :=
  n.key ≠ "" ∧ ∃ key, parseWireGuardKey n.key = .ok key ∧ t = c.tailNode n key

theorem converted_of_convertNode {n : Node} {t : TailNode} (hkey : n.key ≠ "")
    (h : c.convertNode n = .ok t) : Converted c n t := by
  rw [convertNode, if_neg hkey, bind_eq_ok] at h
  obtain ⟨key, hparse, h⟩ := h
  exact ⟨hkey, key, mapError_eq_ok.mp hparse, (Except.ok.inj h).symm⟩

theorem convertPeer_eq_some {n : Node} {t : TailNode} :
    c.convertPeer n = some t ↔ Converted c n t := by
  rw [convertPeer]
  split_ifs with hkey
  · simp [Converted, hkey]
  · rw [convertNode, if_neg hkey]
    cases hparse : parseWireGuardKey n.key with
    | error e => simp [Converted, hparse, Except.toOption]
    | ok key =>
      simp only [mapError_ok, ok_bind, Converted, hparse, Except.ok.injEq, exists_eq_left']
      exact ⟨fun h => ⟨hkey, (Option.some.inj h).symm⟩, fun h => congrArg some h.2.symm⟩

/-- The nodes of an accepted map are those of the response with a key, the peers in the order of
their IDs. -/
theorem convert_ok {resp : MapResponse} {nm : NetworkMap} (h : c.convert (some resp) = .ok nm) :
    validateNodeIdentities resp = .ok () ∧ Converted c resp.node nm.selfNode ∧
      nm.peers = (resp.peers.filterMap c.convertPeer).insertionSort fun a b => a.id ≤ b.id := by
  rw [convert] at h
  simp only [bind_eq_ok] at h
  obtain ⟨⟨⟩, hvalid, h⟩ := h
  split_ifs at h with hkey
  rw [bind_eq_ok] at h
  obtain ⟨selfNode, hself, h⟩ := h
  obtain rfl := Except.ok.inj h
  exact ⟨mapError_eq_ok.mp hvalid, converted_of_convertNode hkey (mapError_eq_ok.mp hself), rfl⟩

theorem exists_of_mem_nodes {resp : MapResponse} {nm : NetworkMap}
    (h : c.convert (some resp) = .ok nm) {t : TailNode} (ht : t ∈ nm.nodes) :
    ∃ n ∈ resp.node :: resp.peers, Converted c n t := by
  obtain ⟨-, hself, hpeers⟩ := convert_ok h
  obtain rfl | ht := List.mem_cons.mp ht
  · exact ⟨resp.node, List.mem_cons_self, hself⟩
  · rw [hpeers, List.mem_insertionSort, List.mem_filterMap] at ht
    obtain ⟨n, hn, hconv⟩ := ht
    exact ⟨n, List.mem_cons_of_mem _ hn, convertPeer_eq_some.mp hconv⟩

theorem exists_mem_nodes {resp : MapResponse} {nm : NetworkMap}
    (h : c.convert (some resp) = .ok nm) {n : Node} (hn : n ∈ resp.node :: resp.peers)
    (hkey : n.key ≠ "") {key : Buffer 32} (hparse : parseWireGuardKey n.key = .ok key) :
    ∃ t ∈ nm.nodes, t.id = n.id ∧ t.key = key := by
  obtain ⟨-, ⟨-, key', hparse', hself⟩, hpeers⟩ := convert_ok h
  obtain rfl | hn := List.mem_cons.mp hn
  · refine ⟨nm.selfNode, List.mem_cons_self, ?_⟩
    rw [hparse] at hparse'
    obtain rfl := Except.ok.inj hparse'
    rw [hself]
    exact ⟨rfl, rfl⟩
  · refine ⟨c.tailNode n key, List.mem_cons_of_mem _ ?_, rfl, rfl⟩
    rw [hpeers, List.mem_insertionSort, List.mem_filterMap]
    exact ⟨n, hn, convertPeer_eq_some.mpr ⟨hkey, key, hparse, rfl⟩⟩

/-- What holds between any two nodes of the response holds of their counterparts in the map. -/
theorem pairwise_nodes {resp : MapResponse} {nm : NetworkMap} (h : c.convert (some resp) = .ok nm)
    {R : Node → Node → Prop} {S : TailNode → TailNode → Prop} (hsymm : ∀ {t t'}, S t t' → S t' t)
    (hR : (resp.node :: resp.peers).Pairwise R)
    (hRS : ∀ n n' t t', R n n' → Converted c n t → Converted c n' t' → S t t') :
    nm.nodes.Pairwise S := by
  obtain ⟨-, hself, hpeers⟩ := convert_ok h
  obtain ⟨hfirst, hrest⟩ := List.pairwise_cons.mp hR
  refine List.pairwise_cons.mpr ⟨?_, ?_⟩
  · intro t ht
    rw [hpeers, List.mem_insertionSort, List.mem_filterMap] at ht
    obtain ⟨n, hn, hconv⟩ := ht
    exact hRS _ _ _ _ (hfirst n hn) hself (convertPeer_eq_some.mp hconv)
  · rw [hpeers, (List.perm_insertionSort _ _).pairwise_iff hsymm]
    refine hrest.filterMap _ fun n n' hr t ht t' ht' => ?_
    exact hRS n n' t t' hr (convertPeer_eq_some.mp ht) (convertPeer_eq_some.mp ht')

end Converter

end Meshd.Engine

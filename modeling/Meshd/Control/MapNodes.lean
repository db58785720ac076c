import Meshd.Control.MapResponse

namespace Meshd.Control

open Meshd.Framework

variable {platform : Platform} {networkRecordID selfDID : String} {now : Time} {c : CachedState}

/-- The node has an address, its own or an allocated one. -/
def Addressed (platform : Platform) (network : Option NetworkConfig) (did : String)
    (rec : NodeRecord) : Prop :=
  (platform.parseAddr rec.meshIP).isSome ∨
    ∃ config, network = some config ∧ config.meshCIDR ≠ "" ∧
      (platform.allocateMeshIP config.meshCIDR did).isSome

/-- The fallback sets addresses and nothing else. -/
theorem applyFallbackMeshIP_eq (network : Option NetworkConfig) (node : Node) :
    ∃ meshIP allowedIPs, applyFallbackMeshIP platform network node =
      { node with meshIP, allowedIPs } := by
  unfold applyFallbackMeshIP
  split
  · split
    · exact ⟨node.meshIP, node.allowedIPs, rfl⟩
    · split
      · exact ⟨node.meshIP, node.allowedIPs, rfl⟩
      · exact ⟨_, _, rfl⟩
  · exact ⟨node.meshIP, node.allowedIPs, rfl⟩

/-- The address of a node after the fallback: its own, or else the allocated one. -/
theorem applyFallbackMeshIP_eq_some {network : Option NetworkConfig} {node : Node} {ip : String} :
    (applyFallbackMeshIP platform network node).meshIP = some ip ↔
      node.meshIP = some ip ∨ node.meshIP = none ∧ ∃ config, network = some config ∧
        config.meshCIDR ≠ "" ∧ platform.allocateMeshIP config.meshCIDR node.did = some ip := by
  unfold applyFallbackMeshIP
  split
  · next config hip =>
    split
    · next hcidr => simp [hip, hcidr]
    · next hcidr =>
      split
      · next halloc => simp [hip, hcidr, halloc]
      · next ip' halloc => simp [hip, hcidr, halloc]
  · next hother =>
    refine ⟨.inl, fun h => h.resolve_right ?_⟩
    rintro ⟨hip, config, hnet, -⟩
    exact hother config hip hnet

theorem applyFallbackMeshIP_meshIP {network : Option NetworkConfig} {node : Node} :
    (applyFallbackMeshIP platform network node).meshIP ≠ none ↔
      node.meshIP.isSome ∨ ∃ config, network = some config ∧ config.meshCIDR ≠ "" ∧
        (platform.allocateMeshIP config.meshCIDR node.did).isSome := by
  rw [Option.ne_none_iff_exists']
  constructor
  · rintro ⟨ip, h⟩
    obtain hip | ⟨-, config, hnet, hcidr, halloc⟩ := applyFallbackMeshIP_eq_some.mp h
    · exact .inl (Option.isSome_of_eq_some hip)
    · exact .inr ⟨config, hnet, hcidr, Option.isSome_of_eq_some halloc⟩
  · intro h
    cases hip : node.meshIP with
    | some ip => exact ⟨ip, applyFallbackMeshIP_eq_some.mpr (.inl hip)⟩
    | none =>
      obtain ⟨config, hnet, hcidr, halloc⟩ := h.resolve_left (by simp [hip])
      obtain ⟨ip, halloc⟩ := Option.isSome_iff_exists.mp halloc
      exact ⟨ip, applyFallbackMeshIP_eq_some.mpr (.inr ⟨hip, config, hnet, hcidr, halloc⟩)⟩

variable (platform networkRecordID now c) in
theorem mapNode_eq (did : String) (rec : NodeRecord) :
    ∃ stableID meshIP allowedIPs, mapNode platform networkRecordID now c did rec =
      { nodeRecordToNodeWithThreshold platform (platform.nodeIdentityForDID networkRecordID did).1
          did rec defaultPeerStaleThreshold now with stableID, meshIP, allowedIPs } := by
  obtain ⟨meshIP, allowedIPs, heq⟩ := applyFallbackMeshIP_eq c.network _
  exact ⟨_, meshIP, allowedIPs, heq⟩

variable (platform networkRecordID now c) in
theorem mapNode_same (did : String) (rec : NodeRecord) :
    (mapNode platform networkRecordID now c did rec).did = did ∧
    (mapNode platform networkRecordID now c did rec).id =
      (platform.nodeIdentityForDID networkRecordID did).1 ∧
    (mapNode platform networkRecordID now c did rec).key = (platform.deriveKey did).getD "" := by
  obtain ⟨_, _, _, heq⟩ := mapNode_eq platform networkRecordID now c did rec
  rw [heq]
  exact ⟨rfl, rfl, rfl⟩

/-- The endpoints have been updated within the threshold. -/
def recentlySeen (platform : Platform) (endpoints : List EndpointData) (now : Time) : Bool :=
  decide (lastSeen platform endpoints ≠ 0) &&
    decide (timeSub now (lastSeen platform endpoints) ≤ defaultPeerStaleThreshold)

variable (platform networkRecordID now c) in
/-- What tells whether a node of the map is alive. -/
theorem mapNode_liveness (did : String) (rec : NodeRecord) :
    (mapNode platform networkRecordID now c did rec).expiresAt = rec.expiresAt ∧
    (mapNode platform networkRecordID now c did rec).lastSeen = lastSeen platform rec.endpoints ∧
    (mapNode platform networkRecordID now c did rec).online =
      recentlySeen platform rec.endpoints now := by
  obtain ⟨_, _, _, heq⟩ := mapNode_eq platform networkRecordID now c did rec
  rw [heq]
  exact ⟨rfl, rfl, rfl⟩

/-- The peer that one turn of the loop adds. -/
def peerOf (platform : Platform) (networkRecordID selfDID : String) (now : Time) (c : CachedState)
    (entry : String × NodeRecord) : Option Node :=
  let node := mapNode platform networkRecordID now c entry.1 entry.2
  if nodeRecordExpired platform entry.2 now = true ∨ entry.1 = selfDID ∨ node.meshIP = none then none
  else some node

theorem peerOf_eq_some {did : String} {rec : NodeRecord} {node : Node} :
    peerOf platform networkRecordID selfDID now c (did, rec) = some node ↔
      nodeRecordExpired platform rec now = false ∧ did ≠ selfDID ∧
        Addressed platform c.network did rec ∧
        node = mapNode platform networkRecordID now c did rec := by
  have haddr : (mapNode platform networkRecordID now c did rec).meshIP ≠ none ↔
      Addressed platform c.network did rec := applyFallbackMeshIP_meshIP
  rw [← haddr, peerOf]
  dsimp only
  split
  · next hout =>
    constructor
    · intro hnone
      cases hnone
    · rintro ⟨hexp, hself, hip, -⟩
      obtain he | he | he := hout
      · rw [hexp] at he
        cases he
      · exact absurd he hself
      · exact absurd he hip
  · next hin =>
    rw [not_or, not_or, Bool.not_eq_true] at hin
    constructor
    · intro hsome
      exact ⟨hin.1, hin.2.1, hin.2.2, (Option.some.inj hsome).symm⟩
    · rintro ⟨-, -, -, rfl⟩
      rfl

/-- What one turn of the loop makes of what it has, unless it ends the loop. -/
def mapNodesTurn (platform : Platform) (networkRecordID selfDID : String) (now : Time) (c : CachedState)
    (acc : MapNodes) (entry : String × NodeRecord) : MapNodes :=
  let node := mapNode platform networkRecordID now c entry.1 entry.2
  { self := if entry.1 = selfDID then some node else acc.self
    peers := acc.peers ++ (peerOf platform networkRecordID selfDID now c entry).toList
    dropped :=
      if nodeRecordExpired platform entry.2 now = false ∧ entry.1 ≠ selfDID ∧ node.meshIP = none then
        acc.dropped + 1
      else acc.dropped }

theorem mapNodes_cons {acc : MapNodes} {entry : String × NodeRecord}
    {rest : List (String × NodeRecord)} :
    mapNodes platform networkRecordID selfDID now c acc (entry :: rest) =
      if nodeRecordExpired platform entry.2 now = true ∧ entry.1 = selfDID then (false, acc)
      else mapNodes platform networkRecordID selfDID now c
        (mapNodesTurn platform networkRecordID selfDID now c acc entry) rest := by
  obtain ⟨did, rec⟩ := entry
  rw [mapNodes]
  by_cases hexp : nodeRecordExpired platform rec now = true
  · by_cases hself : did = selfDID
    · simp [hexp, hself]
    · simp [mapNodesTurn, peerOf, hexp, hself]
  · by_cases hself : did = selfDID
    · simp [mapNodesTurn, peerOf, hexp, hself]
    · by_cases haddr : (mapNode platform networkRecordID now c did rec).meshIP = none
      · simp [mapNodesTurn, peerOf, hexp, hself, haddr]
      · simp [mapNodesTurn, peerOf, hexp, hself, haddr]

/-- The loop is ended by an expired record of this node only. -/
theorem mapNodes_finished {acc : MapNodes} {records : List (String × NodeRecord)} :
    (mapNodes platform networkRecordID selfDID now c acc records).1 = true ↔
      ∀ rec, (selfDID, rec) ∈ records → nodeRecordExpired platform rec now = false := by
  induction records generalizing acc with
  | nil => simp [mapNodes]
  | cons entry rest ih =>
    obtain ⟨did, rec⟩ := entry
    rw [mapNodes_cons]
    by_cases hstop : nodeRecordExpired platform rec now = true ∧ did = selfDID
    · rw [if_pos hstop]
      obtain ⟨hexp, rfl⟩ := hstop
      constructor
      · intro h
        cases h
      · intro h
        rw [h rec List.mem_cons_self] at hexp
        cases hexp
    · rw [if_neg hstop, ih]
      refine ⟨fun h rec' hmem => ?_, fun h rec' hmem => h rec' (List.mem_cons_of_mem _ hmem)⟩
      obtain heq | hmem := List.mem_cons.mp hmem
      · obtain ⟨rfl, rfl⟩ := Prod.mk.inj heq
        simpa using hstop
      · exact h rec' hmem

/-- What a loop that is not ended early puts together. -/
theorem mapNodes_ok {acc acc' : MapNodes} {records : List (String × NodeRecord)}
    (h : mapNodes platform networkRecordID selfDID now c acc records = (true, acc')) :
    (∀ node, acc'.self = some node → acc.self = some node ∨
      ∃ rec, (selfDID, rec) ∈ records ∧
        node = mapNode platform networkRecordID now c selfDID rec) ∧
    ((∃ rec, (selfDID, rec) ∈ records) ∨ acc.self.isSome → acc'.self.isSome) ∧
    acc'.peers = acc.peers ++
      records.filterMap (peerOf platform networkRecordID selfDID now c) := by
  induction records generalizing acc with
  | nil =>
    obtain rfl := (Prod.mk.inj h).2
    exact ⟨fun node hnode => .inl hnode, by simp, by simp⟩
  | cons entry rest ih =>
    obtain ⟨did, rec⟩ := entry
    rw [mapNodes_cons] at h
    split at h
    · cases h
    · obtain ⟨hnode, hsome, hpeers⟩ := ih h
      refine ⟨fun node hself => ?_, fun hin => hsome ?_, ?_⟩
      · obtain hturn | ⟨rec', hmem, rfl⟩ := hnode node hself
        · by_cases hdid : did = selfDID
          · subst hdid
            have hcons : some (mapNode platform networkRecordID now c did rec) = some node := by
              simpa [mapNodesTurn] using hturn
            exact .inr ⟨rec, List.mem_cons_self, (Option.some.inj hcons).symm⟩
          · exact .inl (by simpa [mapNodesTurn, hdid] using hturn)
        · exact .inr ⟨rec', List.mem_cons_of_mem _ hmem, rfl⟩
      · by_cases hdid : did = selfDID
        · exact .inr (by simp [mapNodesTurn, hdid])
        · obtain ⟨rec', hmem⟩ | hacc := hin
          · obtain heq | hmem := List.mem_cons.mp hmem
            · exact absurd (Prod.mk.inj heq).1.symm hdid
            · exact .inl ⟨rec', hmem⟩
          · exact .inr (by simpa [mapNodesTurn, hdid] using hacc)
      · rw [hpeers, mapNodesTurn, List.append_assoc]
        cases hpeer : peerOf platform networkRecordID selfDID now c (did, rec) with
        | none => simp [List.filterMap_cons_none hpeer]
        | some node => simp [List.filterMap_cons_some hpeer]

theorem mem_sortedNodes {did : String} {rec : NodeRecord} :
    (did, rec) ∈ sortedNodes c ↔ ∃ p, c.nodes.lookup did = some p ∧ rec = c.record p := by
  simp only [sortedNodes, List.mem_map, List.mem_insertionSort, Prod.mk.injEq]
  constructor
  · rintro ⟨⟨did, p⟩, hmem, rfl, rfl⟩
    exact ⟨p, AList.mem_lookup_iff.mpr hmem, rfl⟩
  · rintro ⟨p, hlookup, rfl⟩
    exact ⟨⟨did, p⟩, AList.mem_lookup_iff.mp hlookup, rfl, rfl⟩

/-- A map of the client: this node with its own record, and the peers in the order of their DIDs. -/
theorem buildMapResponse_eq_some {resp : MapResponse}
    (h : (buildMapResponse platform networkRecordID selfDID now c).1 = some resp) :
    (∃ p, c.nodes.lookup selfDID = some p ∧ nodeRecordExpired platform (c.record p) now = false ∧
      resp.node = mapNode platform networkRecordID now c selfDID (c.record p)) ∧
    resp.peers = (sortedNodes c).filterMap (peerOf platform networkRecordID selfDID now c) := by
  simp only [buildMapResponse] at h
  split at h
  · next hfinished hself =>
    obtain rfl := Option.some.inj h
    obtain ⟨hs, -, hp⟩ := mapNodes_ok (Prod.ext hfinished rfl)
    obtain ⟨rec, hmem, hnode⟩ := (hs _ hself).resolve_left (by simp)
    have hexp := mapNodes_finished.mp hfinished rec hmem
    obtain ⟨p, hlookup, rfl⟩ := mem_sortedNodes.mp hmem
    exact ⟨⟨p, hlookup, hexp, hnode⟩, by simpa using hp⟩
  · cases h

/-- There is a map where this node has a record that has not expired. -/
theorem exists_buildMapResponse {p : Nat} (hlookup : c.nodes.lookup selfDID = some p)
    (hexp : nodeRecordExpired platform (c.record p) now = false) :
    ∃ resp, (buildMapResponse platform networkRecordID selfDID now c).1 = some resp := by
  have hfinished : (mapNodes platform networkRecordID selfDID now c {} (sortedNodes c)).1 = true := by
    refine mapNodes_finished.mpr fun rec hmem => ?_
    obtain ⟨q, hq, rfl⟩ := mem_sortedNodes.mp hmem
    rw [hlookup] at hq
    obtain rfl := Option.some.inj hq
    exact hexp
  obtain ⟨-, hsome, -⟩ := mapNodes_ok (Prod.ext hfinished rfl)
  obtain ⟨node, hnode⟩ := Option.isSome_iff_exists.mp
    (hsome (.inl ⟨_, mem_sortedNodes.mpr ⟨p, hlookup, rfl⟩⟩))
  simp only [buildMapResponse, hfinished, hnode]
  exact ⟨_, rfl⟩

/-- The nodes of a response: this node, and those whose records have not expired and that have an
address. -/
theorem buildMapResponse_nodes {resp : MapResponse}
    (h : (buildMapResponse platform networkRecordID selfDID now c).1 = some resp) :
    (∃ p, c.nodes.lookup selfDID = some p ∧ nodeRecordExpired platform (c.record p) now = false ∧
      resp.node = mapNode platform networkRecordID now c selfDID (c.record p)) ∧
    ∀ node, node ∈ resp.peers ↔ ∃ did p, ⟨did, p⟩ ∈ c.nodes.entries ∧
      nodeRecordExpired platform (c.record p) now = false ∧ did ≠ selfDID ∧
      Addressed platform c.network did (c.record p) ∧
      node = mapNode platform networkRecordID now c did (c.record p) := by
  obtain ⟨hself, hpeers⟩ := buildMapResponse_eq_some h
  refine ⟨hself, fun node => ?_⟩
  rw [hpeers, List.mem_filterMap]
  constructor
  · rintro ⟨⟨did, rec⟩, hmem, hpeer⟩
    obtain ⟨p, hlookup, rfl⟩ := mem_sortedNodes.mp hmem
    exact ⟨did, p, AList.mem_lookup_iff.mp hlookup, peerOf_eq_some.mp hpeer⟩
  · rintro ⟨did, p, hmem, hpeer⟩
    refine ⟨(did, c.record p), ?_, peerOf_eq_some.mpr hpeer⟩
    exact mem_sortedNodes.mpr ⟨p, AList.mem_lookup_iff.mpr hmem, rfl⟩

/-- Every node of a response is made of the record under its DID. -/
theorem exists_record_of_mem {resp : MapResponse}
    (h : (buildMapResponse platform networkRecordID selfDID now c).1 = some resp) {node : Node}
    (hnode : node ∈ resp.node :: resp.peers) :
    ∃ p, c.nodes.lookup node.did = some p ∧
      node = mapNode platform networkRecordID now c node.did (c.record p) := by
  obtain ⟨⟨p, hlookup, -, hself⟩, hpeers⟩ := buildMapResponse_nodes h
  obtain rfl | hpeer := List.mem_cons.mp hnode
  · rw [hself, (mapNode_same ..).1]
    exact ⟨p, hlookup, rfl⟩
  · obtain ⟨did, q, hmem, -, -, -, rfl⟩ := (hpeers node).mp hpeer
    rw [(mapNode_same ..).1]
    exact ⟨q, AList.mem_lookup_iff.mpr hmem, rfl⟩

end Meshd.Control

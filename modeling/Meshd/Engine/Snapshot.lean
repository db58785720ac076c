import Meshd.Control.MapNodes

namespace Meshd.Engine

open Meshd.Framework Meshd.Control

/-- A node as the daemon shows it. -/
structure PeerSnapshot where
  nodeDID : String
  name : String
  meshIP : String
  ownerDID : String
  memberRecordID : String
  label : String
  expiresAt : String
  online : Bool
  lastSeen : Option Time
deriving DecidableEq

/-- The daemon's view of the last state that could be loaded. -/
structure MeshSnapshot where
  generation : UInt64 := 0
  refreshedAt : Time := 0
  lastAttemptAt : Time := 0
  lastError : String := ""
  self : Option PeerSnapshot := none
  peers : List PeerSnapshot := []
deriving DecidableEq

def peerSnapshotFromControlNode (node : Node) : PeerSnapshot where
  nodeDID := node.did
  name := node.name
  meshIP := node.meshIP.getD ""
  ownerDID := node.memberDID
  memberRecordID := node.memberRecordID
  label := node.label
  expiresAt := node.expiresAt
  online := node.online
  lastSeen := if node.lastSeen = 0 then none else some node.lastSeen

def meshSnapshotFromMapResponse (resp : Option MapResponse) (generation : UInt64)
    (refreshedAt : Time) : MeshSnapshot :=
  let snapshot : MeshSnapshot := { generation, refreshedAt, lastAttemptAt := refreshedAt }
  match resp with
  | none => snapshot
  | some resp =>
    { snapshot with
      self := some (peerSnapshotFromControlNode resp.node)
      peers := resp.peers.map peerSnapshotFromControlNode }

section Liveness
variable (parseTimeNano : String → Option Time)

def peerSnapshotExpired (snapshot : PeerSnapshot) (now : Time) : Bool :=
  if snapshot.expiresAt = "" then false
  else
    match parseTimeNano snapshot.expiresAt with
    | some expiresAt => !decide (now < expiresAt)
    | none => false

def peerSnapshotOnline (snapshot : PeerSnapshot) (now : Time) : Bool :=
  !peerSnapshotExpired parseTimeNano snapshot now &&
    match snapshot.lastSeen with
    | none => false
    | some lastSeen =>
      decide (lastSeen ≠ 0) && decide (timeSub now lastSeen ≤ defaultPeerStaleThreshold)

/-- What is left of a peer at a later time. -/
def agedPeer (now : Time) (peer : PeerSnapshot) : Option PeerSnapshot :=
  if peerSnapshotExpired parseTimeNano peer now then none
  else some { peer with online := peerSnapshotOnline parseTimeNano peer now }

def refreshSnapshotLiveness (snapshot : MeshSnapshot) (now : Time) : MeshSnapshot :=
  { snapshot with
    self := snapshot.self.map fun self =>
      { self with online := peerSnapshotOnline parseTimeNano self now }
    peers := snapshot.peers.filterMap (agedPeer parseTimeNano now) }

end Liveness

/-- The store of the current snapshot. A snapshot in it is never changed, so a copy of it is the
snapshot itself. -/
structure MeshSnapshotStore where
  current : Option MeshSnapshot := none

namespace MeshSnapshotStore

def record (store : MeshSnapshotStore) (resp : Option MapResponse) (err : Option String)
    (now : Time) : MeshSnapshotStore :=
  match err with
  | some err =>
    { current := some { store.current.getD {} with lastAttemptAt := now, lastError := err } }
  | none =>
    let generation :=
      match store.current with
      | some previous => previous.generation + 1
      | none => 1
    { current := some (meshSnapshotFromMapResponse resp generation now) }

def load (parseTimeNano : String → Option Time) (store : MeshSnapshotStore) (now : Time) :
    Option MeshSnapshot :=
  store.current.map fun snapshot => refreshSnapshotLiveness parseTimeNano snapshot now

/-- Refreshes that all fail. -/
def failures (store : MeshSnapshotStore) (errs : List (String × Time)) : MeshSnapshotStore :=
  errs.foldl (fun store e => store.record none (some e.1) e.2) store

/-- A failed refresh leaves the nodes of a snapshot as they are. -/
theorem failures_current {store : MeshSnapshotStore} {snapshot : MeshSnapshot}
    (h : store.current = some snapshot) (errs : List (String × Time)) :
    ∃ snapshot', (store.failures errs).current = some snapshot' ∧
      snapshot'.generation = snapshot.generation ∧ snapshot'.refreshedAt = snapshot.refreshedAt ∧
      snapshot'.self = snapshot.self ∧ snapshot'.peers = snapshot.peers := by
  induction errs generalizing store snapshot with
  | nil => exact ⟨snapshot, h, rfl, rfl, rfl, rfl⟩
  | cons e errs ih =>
    have hnext : (store.record none (some e.1) e.2).current =
        some { snapshot with lastAttemptAt := e.2, lastError := e.1 } := by
      simp [record, h]
    obtain ⟨snapshot', hcurrent, hsame⟩ := ih hnext
    exact ⟨snapshot', hcurrent, hsame⟩

end MeshSnapshotStore

/-- The record expires at this very instant. -/
def ExpiresAt (platform : Platform) (rec : NodeRecord) (now : Time) : Prop :=
  rec.expiresAt ≠ "" ∧ platform.parseTime rec.expiresAt = some now

instance (platform : Platform) (rec : NodeRecord) (now : Time) :
    Decidable (ExpiresAt platform rec now) :=
  inferInstanceAs (Decidable (_ ∧ _))

section Aging

variable {platform : Platform} {parseTimeNano : String → Option Time}
  {networkRecordID selfDID : String} {t now : Time} {c : CachedState}

theorem nodeRecordExpired_mono {rec : NodeRecord} (ht : t ≤ now)
    (h : nodeRecordExpired platform rec now = false) : nodeRecordExpired platform rec t = false := by
  unfold nodeRecordExpired at h ⊢
  split_ifs at h ⊢
  · rfl
  · cases hparse : platform.parseTime rec.expiresAt with
    | none => rfl
    | some expiresAt =>
      rw [hparse] at h
      have hle : now ≤ expiresAt := not_lt.mp (of_decide_eq_false h)
      exact decide_eq_false (not_lt.mpr (ht.trans hle))

/-- The view takes a record for expired from the instant of its expiry on, a map only after it. -/
theorem peerSnapshotExpired_mapNode (hparse : ∀ s, parseTimeNano s = platform.parseTime s)
    (networkRecordID : String) (t now : Time) (c : CachedState) (did : String) (rec : NodeRecord) :
    peerSnapshotExpired parseTimeNano
        (peerSnapshotFromControlNode (mapNode platform networkRecordID t c did rec)) now = true ↔
      nodeRecordExpired platform rec now = true ∨ ExpiresAt platform rec now := by
  have hpeer : (peerSnapshotFromControlNode
      (mapNode platform networkRecordID t c did rec)).expiresAt = rec.expiresAt :=
    (mapNode_liveness platform networkRecordID t c did rec).1
  unfold peerSnapshotExpired nodeRecordExpired ExpiresAt
  rw [hpeer, hparse]
  by_cases hempty : rec.expiresAt = ""
  · simp [hempty]
  · cases hexp : platform.parseTime rec.expiresAt with
    | none => simp [hempty]
    | some expiresAt => simp [hempty, le_iff_lt_or_eq]

/-- The nodes of the map with their liveness at a later time. -/
theorem peerSnapshotOnline_mapNode (did : String) (rec : NodeRecord) :
    peerSnapshotOnline parseTimeNano
        (peerSnapshotFromControlNode (mapNode platform networkRecordID t c did rec)) now =
      (!peerSnapshotExpired parseTimeNano
          (peerSnapshotFromControlNode (mapNode platform networkRecordID t c did rec)) now &&
        recentlySeen platform rec.endpoints now) := by
  have hseen := (mapNode_liveness platform networkRecordID t c did rec).2.1
  by_cases hzero : lastSeen platform rec.endpoints = 0
  · simp [peerSnapshotOnline, peerSnapshotFromControlNode, recentlySeen, hseen, hzero]
  · simp [peerSnapshotOnline, peerSnapshotFromControlNode, recentlySeen, hseen, hzero]

/-- What the view at `now` shows of a record, against what a map at `now` shows of it. -/
theorem agedPeer_peerOf (hparse : ∀ s, parseTimeNano s = platform.parseTime s) (ht : t ≤ now)
    (did : String) (rec : NodeRecord) :
    ((peerOf platform networkRecordID selfDID t c (did, rec)).bind fun node =>
        agedPeer parseTimeNano now (peerSnapshotFromControlNode node)).map
          (fun peer => (peer.nodeDID, peer.online)) =
      if ExpiresAt platform rec now then none
      else (peerOf platform networkRecordID selfDID now c (did, rec)).map
        fun node => (node.did, node.online) := by
  have hexpired := peerSnapshotExpired_mapNode hparse networkRecordID t now c did rec
  have hdid : (peerSnapshotFromControlNode (mapNode platform networkRecordID t c did rec)).nodeDID =
      did := (mapNode_same platform networkRecordID t c did rec).1
  by_cases hin : did ≠ selfDID ∧ Addressed platform c.network did rec
  · by_cases hnow : nodeRecordExpired platform rec now = true
    · -- Gone at `now`, whether or not it was in the map at `t`.
      have hfresh : peerOf platform networkRecordID selfDID now c (did, rec) = none := by
        rw [Option.eq_none_iff_forall_ne_some]
        intro node hnode
        rw [(peerOf_eq_some.mp hnode).1] at hnow
        cases hnow
      rw [hfresh]
      cases hthen : peerOf platform networkRecordID selfDID t c (did, rec) with
      | none => simp
      | some node =>
        obtain rfl := (peerOf_eq_some.mp hthen).2.2.2
        simp [agedPeer, hexpired.mpr (.inl hnow)]
    · rw [Bool.not_eq_true] at hnow
      rw [peerOf_eq_some.mpr ⟨hnow, hin.1, hin.2, rfl⟩,
        peerOf_eq_some.mpr ⟨nodeRecordExpired_mono ht hnow, hin.1, hin.2, rfl⟩]
      by_cases hinstant : ExpiresAt platform rec now
      · simp [agedPeer, hexpired.mpr (.inr hinstant), hinstant]
      · have hfalse : peerSnapshotExpired parseTimeNano
            (peerSnapshotFromControlNode (mapNode platform networkRecordID t c did rec)) now =
              false := by
          rw [← Bool.not_eq_true, hexpired, hnow]
          simpa using hinstant
        simp [agedPeer, hfalse, hinstant, peerSnapshotOnline_mapNode, mapNode_liveness, hdid,
          mapNode_same]
  · have hout (time : Time) : peerOf platform networkRecordID selfDID time c (did, rec) = none := by
      rw [Option.eq_none_iff_forall_ne_some]
      intro node hnode
      obtain ⟨-, hself, haddr, -⟩ := peerOf_eq_some.mp hnode
      exact hin ⟨hself, haddr⟩
    simp [hout]

/-- The view of a snapshot recorded from a map, whatever refreshes have failed since. -/
theorem load_record {store : MeshSnapshotStore} {resp : MapResponse} {refreshedAt : Time}
    {errs : List (String × Time)} :
    ∃ view, ((store.record (some resp) none refreshedAt).failures errs).load parseTimeNano now =
        some view ∧
      view.self = some { peerSnapshotFromControlNode resp.node with
        online := peerSnapshotOnline parseTimeNano (peerSnapshotFromControlNode resp.node) now } ∧
      view.peers = (resp.peers.map peerSnapshotFromControlNode).filterMap
        (agedPeer parseTimeNano now) := by
  obtain ⟨snapshot, hcurrent, -, -, hself, hpeers⟩ :=
    MeshSnapshotStore.failures_current
      (rfl : (store.record (some resp) none refreshedAt).current = some _) errs
  refine ⟨_, by rw [MeshSnapshotStore.load, hcurrent]; rfl, ?_, ?_⟩
  · simp [refreshSnapshotLiveness, hself, meshSnapshotFromMapResponse]
  · simp [refreshSnapshotLiveness, hpeers, meshSnapshotFromMapResponse]

theorem not_expired_of_expiresAt {rec : NodeRecord} (h : ExpiresAt platform rec now) :
    nodeRecordExpired platform rec now = false := by
  simp [nodeRecordExpired, h.1, h.2]

/-- The peers of the view are those of the map at `now` where none of them expires at `now`. -/
theorem agedPeers_iff :
    (sortedNodes c).filterMap (fun entry => if ExpiresAt platform entry.2 now then none
        else (peerOf platform networkRecordID selfDID now c entry).map
          fun node => (node.did, node.online)) =
      ((sortedNodes c).filterMap (peerOf platform networkRecordID selfDID now c)).map
        (fun node => (node.did, node.online)) ↔
    ∀ did q, c.nodes.lookup did = some q → did ≠ selfDID →
      Addressed platform c.network did (c.record q) → ¬ ExpiresAt platform (c.record q) now := by
  rw [List.map_filterMap]
  constructor
  · intro heq did q hq hself haddr hinstant
    have hfresh : peerOf platform networkRecordID selfDID now c (did, c.record q) = some _ :=
      peerOf_eq_some.mpr ⟨not_expired_of_expiresAt hinstant, hself, haddr, rfl⟩
    -- The record is in the map, so its DID is on the right, but nothing on the left has that DID.
    have hright := List.mem_map_of_mem (f := fun node => (node.did, node.online))
      (List.mem_filterMap.mpr ⟨_, mem_sortedNodes.mpr ⟨q, hq, rfl⟩, hfresh⟩)
    rw [List.map_filterMap, ← heq] at hright
    obtain ⟨⟨did', rec'⟩, hmem', hshown⟩ := List.mem_filterMap.mp hright
    dsimp only at hshown
    split_ifs at hshown with hother
    obtain ⟨node, hnode, hpair⟩ := Option.map_eq_some_iff.mp hshown
    obtain ⟨-, -, -, rfl⟩ := peerOf_eq_some.mp hnode
    obtain ⟨q', hq', rfl⟩ := mem_sortedNodes.mp hmem'
    have hdid := (Prod.mk.inj hpair).1
    rw [(mapNode_same ..).1, (mapNode_same ..).1] at hdid
    subst hdid
    rw [hq] at hq'
    obtain rfl := Option.some.inj hq'
    exact hother hinstant
  · intro hnone
    apply List.filterMap_congr
    rintro ⟨did, rec⟩ hmem
    obtain ⟨q, hq, rfl⟩ := mem_sortedNodes.mp hmem
    split_ifs with hinstant
    · rw [eq_comm, Option.map_eq_none_iff, Option.eq_none_iff_forall_ne_some]
      intro node hnode
      obtain ⟨-, hself, haddr, -⟩ := peerOf_eq_some.mp hnode
      exact hnone did q hq hself haddr hinstant
    · rfl

/-- Whoever is in a map at `now` was in the one at `t`. -/
theorem filter_peers_eq (ht : t ≤ now) {resp fresh : MapResponse}
    (hresp : (buildMapResponse platform networkRecordID selfDID t c).1 = some resp)
    (hfresh : (buildMapResponse platform networkRecordID selfDID now c).1 = some fresh) :
    (fresh.peers.filter fun node => node.did ∈ resp.peers.map (·.did)) = fresh.peers := by
  rw [List.filter_eq_self]
  intro node hnode
  obtain ⟨did, q, hmem, hexp, hself, haddr, rfl⟩ := (buildMapResponse_nodes hfresh).2 node |>.mp hnode
  have hthen := (buildMapResponse_nodes hresp).2 (mapNode platform networkRecordID t c did (c.record q))
    |>.mpr ⟨did, q, hmem, nodeRecordExpired_mono ht hexp, hself, haddr, rfl⟩
  rw [decide_eq_true_eq, List.mem_map]
  exact ⟨_, hthen, by rw [(mapNode_same ..).1, (mapNode_same ..).1]⟩

/-- This node is shown online as in a map at `now`, unless it is online and expires at `now`. -/
theorem agedSelf_iff (hparse : ∀ s, parseTimeNano s = platform.parseTime s) {did : String}
    {rec : NodeRecord} (hexp : nodeRecordExpired platform rec now = false) :
    peerSnapshotOnline parseTimeNano
        (peerSnapshotFromControlNode (mapNode platform networkRecordID t c did rec)) now =
      (mapNode platform networkRecordID now c did rec).online ↔
    (ExpiresAt platform rec now → recentlySeen platform rec.endpoints now = false) := by
  have hexpired := peerSnapshotExpired_mapNode hparse networkRecordID t now c did rec
  rw [hexp] at hexpired
  rw [peerSnapshotOnline_mapNode, (mapNode_liveness ..).2.2]
  by_cases hinstant : ExpiresAt platform rec now
  · simp [hexpired.mpr (.inr hinstant), hinstant, @eq_comm _ false]
  · have hfalse := mt hexpired.mp (by simpa using hinstant)
    simp [hfalse, hinstant]

/-- When a snapshot, seen at a later time, shows what a map built at that time would: no peer may
expire at that very instant, nor this node if it is online. -/
theorem aged_view_iff (hparse : ∀ s, parseTimeNano s = platform.parseTime s) (ht : t ≤ now)
    {resp : MapResponse}
    (hresp : (buildMapResponse platform networkRecordID selfDID t c).1 = some resp) {p : Nat}
    (hself : c.nodes.lookup selfDID = some p)
    (hexp : nodeRecordExpired platform (c.record p) now = false)
    (store : MeshSnapshotStore) (refreshedAt : Time) (errs : List (String × Time)) :
    ∃ fresh view self,
      (buildMapResponse platform networkRecordID selfDID now c).1 = some fresh ∧
      ((store.record (some resp) none refreshedAt).failures errs).load parseTimeNano now =
        some view ∧
      view.self = some self ∧
      (view.peers.map (fun peer => (peer.nodeDID, peer.online)) =
            (fresh.peers.filter fun node => node.did ∈ resp.peers.map (·.did)).map
              (fun node => (node.did, node.online)) ∧
          self.online = fresh.node.online ↔
        (∀ did q, c.nodes.lookup did = some q → did ≠ selfDID →
          Addressed platform c.network did (c.record q) → ¬ ExpiresAt platform (c.record q) now) ∧
        (ExpiresAt platform (c.record p) now →
          recentlySeen platform (c.record p).endpoints now = false)) := by
  obtain ⟨fresh, hfresh⟩ := exists_buildMapResponse hself hexp
  obtain ⟨⟨p', hlookup, -, hnode⟩, hpeers⟩ := buildMapResponse_eq_some hresp
  obtain ⟨⟨q', hlookup', -, hnode'⟩, hpeers'⟩ := buildMapResponse_eq_some hfresh
  obtain rfl : p = p' := Option.some.inj (hself.symm.trans hlookup)
  obtain rfl : p = q' := Option.some.inj (hself.symm.trans hlookup')
  obtain ⟨view, hview, hviewSelf, hviewPeers⟩ := load_record
  refine ⟨fresh, view, _, hfresh, hview, hviewSelf, and_congr ?_ ?_⟩
  · rw [filter_peers_eq ht hresp hfresh, hviewPeers, hpeers, hpeers', List.filterMap_map,
      List.filterMap_filterMap, List.map_filterMap]
    simp only [Function.comp_apply, agedPeer_peerOf hparse ht]
    exact agedPeers_iff
  · rw [hnode, hnode']
    exact agedSelf_iff hparse hexp

end Aging

/-- Two instants, two minutes apart. -/
def springTime (text : String) : Option Time :=
  if text = "2026-05-31T23:58:00Z" then some (8 * minute)
  else if text = "2026-06-01T00:00:00Z" then some (10 * minute)
  else none

def springPlatform : Platform where
  parseAddr := fun text => if text = "" then none else some text
  parsePrefix := some
  hostPrefix := fun ip => ip ++ "/32"
  parseTime := springTime
  allocateMeshIP := fun _ _ => none
  deriveKey := some
  nodeIdentityForDID := fun _ did => (did.length, did)

/-- Alice's node, and one of Bob's that is online until it expires at the end of May. -/
def springState : CachedState where
  network := none
  nodes := AList.insert "did:jwk:alice" 0 (AList.insert "did:jwk:bob" 1 ∅)
  record := fun p =>
    if p = 0 then { meshIP := "10.200.0.2" }
    else
      { meshIP := "10.200.0.3"
        expiresAt := "2026-06-01T00:00:00Z"
        endpoints := [{ updatedAt := "2026-05-31T23:58:00Z" }] }
  relays := []
  acl := none

theorem springState_view :
    ∃ resp fresh view, (buildMapResponse springPlatform "home" "did:jwk:alice" (8 * minute)
        springState).1 = some resp ∧
      (buildMapResponse springPlatform "home" "did:jwk:alice" (9 * minute) springState).1 =
        some fresh ∧
      (MeshSnapshotStore.record {} (some resp) none (8 * minute)).load springTime (9 * minute) =
        some view ∧
      view.peers.map (fun peer => (peer.nodeDID, peer.online)) =
        (fresh.peers.filter fun node => node.did ∈ resp.peers.map (·.did)).map
          (fun node => (node.did, node.online)) := by
  have hbetween (rec : NodeRecord) : ¬ ExpiresAt springPlatform rec (9 * minute) := by
    rintro ⟨-, hparse⟩
    simp only [springPlatform, springTime] at hparse
    split_ifs at hparse
    · exact absurd (Option.some.inj hparse) (by decide)
    · exact absurd (Option.some.inj hparse) (by decide)
  have ht : (8 * minute : Time) ≤ 9 * minute := by decide
  obtain ⟨fresh, view, self, hfresh, hview, -, hiff⟩ := aged_view_iff (fun _ => rfl) ht
    (rfl : (buildMapResponse springPlatform "home" "did:jwk:alice" (8 * minute) springState).1 =
      some _) (p := 0) rfl rfl {} (8 * minute) []
  have hshown := hiff.mpr ⟨fun _ _ _ _ _ => hbetween _, fun hinstant => absurd hinstant (hbetween _)⟩
  exact ⟨_, fresh, view, rfl, hfresh, hview, hshown.1⟩

/-- At the instant of its expiry a peer is in the map and not in the view. -/
theorem springState_dropped :
    ∃ resp fresh view, (buildMapResponse springPlatform "home" "did:jwk:alice" (8 * minute)
        springState).1 = some resp ∧
      (buildMapResponse springPlatform "home" "did:jwk:alice" (10 * minute) springState).1 =
        some fresh ∧
      (MeshSnapshotStore.record {} (some resp) none (8 * minute)).load springTime (10 * minute) =
        some view ∧
      resp.peers.map (·.did) = ["did:jwk:bob"] ∧
      fresh.peers.map (fun node => (node.did, node.online)) = [("did:jwk:bob", true)] ∧
      view.peers = [] := by
  refine ⟨_, _, _, rfl, rfl, rfl, ?_, ?_, ?_⟩
  · decide
  · decide
  · decide

end Meshd.Engine

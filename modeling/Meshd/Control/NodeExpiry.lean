import Meshd.Control.MapNodes
import Meshd.Control.Rollback

namespace Meshd.Control

open Meshd.Framework

/-- Where a record of the node comes up among the answers to a load, it can be read and is as it
was written. -/
def LoadEnv.Serves (env : LoadEnv) (did : String) (payload : NodeRecord) : Prop :=
  ∀ entries, NodesAnswered env entries → ∀ entry ∈ entries, entry.metadata.recipient = did →
    entry.err = none ∧ entry.value = payload

@[simp] theorem NodeRecord.normalizeOwnerDID_expiresAt (n : NodeRecord) :
    n.normalizeOwnerDID.expiresAt = n.expiresAt := by
  simp only [NodeRecord.normalizeOwnerDID]
  split_ifs
  all_goals rfl

namespace Loader

variable {did expiresAt : String} {payload : NodeRecord} {cfg : ClientConfig} {env : LoadEnv}
  {s s' : Loader} {resp : MapResponse}

/-- The record cached for the node, if there is one, has the expiry. -/
structure Dated (did expiresAt : String) (s : Loader) : Prop where
  node_lt : ∀ p ∈ s.nodeMap.values, p < s.memory.nodes.next
  cell : ∀ p, s.nodeMap.lookup did = some p → (s.memory.nodes.cell p).expiresAt = expiresAt

theorem Dated.addNode (h : Dated did expiresAt s) {did' : String} {node : NodeRecord}
    (hnode : did' = did → node.expiresAt = expiresAt) : Dated did expiresAt (s.addNode did' node) := by
  constructor
  · intro p hp
    rw [nodeMap_addNode] at hp
    rcases GoMap.mem_values_insert hp with rfl | hp
    · exact Nat.lt_succ_self _
    · exact Nat.lt_succ_of_lt (h.node_lt p hp)
  · intro p hp
    rw [nodeMap_addNode] at hp
    change ((s.memory.nodes.alloc node).cell p).expiresAt = expiresAt
    by_cases heq : did = did'
    · subst heq
      rw [AList.lookup_insert] at hp
      obtain rfl := Option.some.inj hp
      rw [Heap.alloc_cell_self]
      exact hnode rfl
    · rw [AList.lookup_insert_ne heq] at hp
      rw [Heap.alloc_cell_of_lt _ _ (h.node_lt p (GoMap.mem_values.mpr ⟨did, hp⟩))]
      exact h.cell p hp

theorem Dated.updateNode (h : Dated did expiresAt s) (p : Nat) {f : NodeRecord → NodeRecord}
    (hf : ∀ node, (f node).expiresAt = node.expiresAt) :
    Dated did expiresAt (s.updateNode p f) := by
  refine ⟨h.node_lt, fun q hq => ?_⟩
  change ((s.memory.nodes.set p (f (s.memory.nodes.cell p))).cell q).expiresAt = expiresAt
  by_cases heq : q = p
  · subst heq
    rw [Heap.set_cell_self, hf]
    exact h.cell q hq
  · rw [Heap.set_cell_of_ne _ _ heq]
    exact h.cell q hq

theorem dated_clearNodes (s : Loader) : Dated did expiresAt s.clearNodes := by
  constructor
  · simp
  · intro p hp
    rw [nodeMap_clearNodes] at hp
    cases hp

theorem keeps_dated_storeNode (memberRecordID : String) (metadata : EntryMetadata)
    {node : NodeRecord} (hnode : metadata.recipient = did → node.expiresAt = expiresAt) :
    Keeps (Dated did expiresAt) (storeNode memberRecordID metadata node) := by
  simp only [storeNode]
  split_ifs
  · exact .modify fun s h => h.addNode hnode
  · exact .pure _

theorem keeps_dated_loadNodeEntry (memberRecordID : String) {entry : Entry NodeRecord}
    (hentry : entry.metadata.recipient = did → entry.err = none ∧ entry.value = payload) :
    Keeps (Dated did payload.expiresAt) (loadNodeEntry memberRecordID entry) := by
  simp only [loadNodeEntry]
  cases herr : entry.err with
  | some e =>
    rw [herr] at hentry
    apply Keeps.bind (.modify fun s h => { h with })
    intro _
    refine (keeps_dated_storeNode _ _ fun hdid => ?_).bind fun _ => .pure _
    cases (hentry hdid).1
  | none =>
    refine (keeps_dated_storeNode _ _ fun hdid => ?_).bind fun _ => .pure _
    rw [NodeRecord.normalizeOwnerDID_expiresAt, (hentry hdid).2]

theorem dated_invariant (hserves : env.Serves did payload) :
    EnvInvariant env (Dated did payload.expiresAt) where
  tick _ h := { h with }
  accept _ _ h := { h with }
  pass _ _ h := { h with }
  loadNodeEntry entries hanswered entry hmem memberRecordID :=
    keeps_dated_loadNodeEntry memberRecordID (hserves entries hanswered entry hmem)
  countUnreadable _ h := { h with }
  addMember _ _ _ h := { h with }
  addRelay _ _ h := { h with }
  setInfo _ p _ h _ := h.updateNode p fun _ => rfl
  addEndpoint _ p _ h _ := h.updateNode p fun _ => rfl
  clearMembers _ h := { h with }
  clearRelays _ h := { h with }
  countDropped _ _ h := { h with }

/-- A load that gets the node's record as it was written caches it with its expiry. -/
theorem dated_of_loadState (hserves : env.Serves did payload)
    (h : loadState cfg env s = .ok resp s') : Dated did payload.expiresAt s' := by
  have hrule := triple_loadSteps_env (I := fun _ => True) cfg env
    ⟨fun _ h => h, fun _ _ h => h, fun _ _ h => h⟩ (dated_invariant hserves) (fun _ _ h => h)
    (fun s _ => dated_clearNodes s) (fun _ _ _ h => { h with })
  exact hrule.ok True.intro (loadState_ok.mp h)

/-- The map that a load returns is that of the state it ends in. -/
theorem map_of_loadState (h : loadState cfg env s = .ok resp s') :
    (buildMapResponse cfg.platform cfg.networkRecordID cfg.selfDID env.now s'.cached).1 =
      some resp := by
  have hsteps := loadState_ok.mp h
  simp only [loadSteps] at hsteps
  obtain ⟨_, _, -, hrest⟩ := run_bind_ok.mp hsteps
  obtain ⟨_, _, -, hrest⟩ := run_bind_ok.mp hrest
  obtain ⟨_, s₁, -, hfinish⟩ := run_bind_ok.mp hrest
  obtain ⟨hresp, n, rfl⟩ := finishLoad_ok hfinish
  exact hresp

/-- A node whose record has expired is in no map. -/
theorem Dated.absent (h : Dated did expiresAt s) {t now : Time} {platform : Platform}
    {networkRecordID selfDID : String} (hne : expiresAt ≠ "")
    (hparse : platform.parseTime expiresAt = some t) (hnow : t < now)
    (hresp : (buildMapResponse platform networkRecordID selfDID now s.cached).1 = some resp) :
    ∀ peer ∈ resp.peers, peer.did ≠ did := by
  intro peer hpeer hdid
  obtain ⟨did', p, hentry, hexp, -, -, rfl⟩ := ((buildMapResponse_nodes hresp).2 peer).mp hpeer
  rw [(mapNode_same ..).1] at hdid
  subst hdid
  have hcell := h.cell p (AList.mem_lookup_iff.mpr hentry)
  have hexpired : nodeRecordExpired platform (s.cached.record p) now = true := by
    change nodeRecordExpired platform (s.memory.nodes.cell p) now = true
    simp [nodeRecordExpired, hcell, hne, hparse, hnow]
  rw [hexp] at hexpired
  cases hexpired

/-- A node whose record has no expiry is in the map at any time. -/
theorem Dated.listed (h : Dated did "" s) {now : Time} {platform : Platform}
    {networkRecordID selfDID : String} {p : Nat} (hlookup : s.cached.nodes.lookup did = some p)
    (hself : did ≠ selfDID) (haddr : Addressed platform s.cached.network did (s.cached.record p))
    (hresp : (buildMapResponse platform networkRecordID selfDID now s.cached).1 = some resp) :
    ∃ peer ∈ resp.peers, peer.did = did := by
  have hexp : nodeRecordExpired platform (s.cached.record p) now = false := by
    have hcell : (s.cached.record p).expiresAt = "" := h.cell p hlookup
    simp [nodeRecordExpired, hcell]
  refine ⟨_, ((buildMapResponse_nodes hresp).2 _).mpr
    ⟨did, p, AList.mem_lookup_iff.mp hlookup, hexp, hself, haddr, rfl⟩, ?_⟩
  exact (mapNode_same ..).1

end Loader

end Meshd.Control

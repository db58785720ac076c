import Meshd.Framework.Run
import Meshd.Control.LoadRules

namespace Meshd.Control

open Meshd.Framework

namespace Loader

variable {s₀ s : Loader}

/-- Since `s₀` no object of the heap was written, but for the two maps of the client. -/
structure Frame (s₀ s : Loader) : Prop where
  members_eq : s.client.members = s₀.client.members
  nodes_eq : s.client.nodes = s₀.client.nodes
  networks : Heap.Extends (· < s₀.memory.networks.next) s₀.memory.networks s.memory.networks
  members : Heap.Extends (· < s₀.memory.members.next) s₀.memory.members s.memory.members
  nodes : Heap.Extends (· < s₀.memory.nodes.next) s₀.memory.nodes s.memory.nodes
  relays : Heap.Extends (· < s₀.memory.relays.next) s₀.memory.relays s.memory.relays
  policies : Heap.Extends (· < s₀.memory.policies.next) s₀.memory.policies s.memory.policies
  memberMaps : Heap.Extends (· ≠ s₀.client.members) s₀.memory.memberMaps s.memory.memberMaps
  nodeMaps : Heap.Extends (· ≠ s₀.client.nodes) s₀.memory.nodeMaps s.memory.nodeMaps

/-- The node map holds no record of before. -/
def Fresh (s₀ s : Loader) : Prop := ∀ p ∈ s.nodeMap.values, s₀.memory.nodes.next ≤ p

theorem Frame.refl (s : Loader) : Frame s s :=
  ⟨rfl, rfl, .refl _ _, .refl _ _, .refl _ _, .refl _ _, .refl _ _, .refl _ _, .refl _ _⟩

theorem Frame.congr {s' : Loader} (h : Frame s₀ s) (hm : s'.memory = s.memory)
    (hmembers : s'.client.members = s.client.members)
    (hnodes : s'.client.nodes = s.client.nodes) : Frame s₀ s' := by
  refine ⟨hmembers.trans h.members_eq, hnodes.trans h.nodes_eq, ?_, ?_, ?_, ?_, ?_, ?_, ?_⟩
  all_goals rw [hm]
  · exact h.networks
  · exact h.members
  · exact h.nodes
  · exact h.relays
  · exact h.policies
  · exact h.memberMaps
  · exact h.nodeMaps

theorem frame_unclocked (s₀ : Loader) : Unclocked (Frame s₀) where
  tick _ h := h.congr rfl rfl rfl
  accept _ _ h := h.congr rfl rfl rfl
  pass _ _ h := h.congr rfl rfl rfl

@[simp] theorem nodeMap_addNode (did : String) (node : NodeRecord) (s : Loader) :
    (s.addNode did node).nodeMap = s.nodeMap.insert did s.memory.nodes.next :=
  Heap.set_cell_self _ _ _

@[simp] theorem nodeMap_clearNodes (s : Loader) : s.clearNodes.nodeMap = ∅ :=
  Heap.set_cell_self _ _ _

theorem Frame.updateNode (h : Frame s₀ s) {p : Nat} (hp : s₀.memory.nodes.next ≤ p)
    (f : NodeRecord → NodeRecord) : Frame s₀ (s.updateNode p f) :=
  { h with nodes := h.nodes.set (not_lt.mpr hp) _ }

theorem frame_fresh_invariant (s₀ : Loader) :
    LoadInvariant fun s => Frame s₀ s ∧ Fresh s₀ s where
  tick _ h := ⟨h.1.congr rfl rfl rfl, h.2⟩
  accept _ _ h := ⟨h.1.congr rfl rfl rfl, h.2⟩
  pass _ _ h := ⟨h.1.congr rfl rfl rfl, h.2⟩
  countUndecryptable _ h := ⟨h.1.congr rfl rfl rfl, h.2⟩
  countUnreadable _ h := ⟨h.1.congr rfl rfl rfl, h.2⟩
  countDropped _ _ h := ⟨h.1.congr rfl rfl rfl, h.2⟩
  addNode s did node h := by
    refine ⟨{ h.1 with
      nodes := h.1.nodes.alloc (fun _ hp => hp) _
      nodeMaps := h.1.nodeMaps.set (not_not.mpr h.1.nodes_eq) _ }, ?_⟩
    intro p hp
    rw [nodeMap_addNode] at hp
    rcases GoMap.mem_values_insert hp with rfl | hp
    · exact h.1.nodes.next_le
    · exact h.2 p hp
  clearMembers s h :=
    ⟨{ h.1 with memberMaps := h.1.memberMaps.set (not_not.mpr h.1.members_eq) _ }, h.2⟩
  addMember s did member h :=
    ⟨{ h.1 with
      members := h.1.members.alloc (fun _ hp => hp) _
      memberMaps := h.1.memberMaps.set (not_not.mpr h.1.members_eq) _ }, h.2⟩
  clearRelays s h := ⟨h.1.congr rfl rfl rfl, h.2⟩
  addRelay s relay h := ⟨{ h.1 with relays := h.1.relays.alloc (fun _ hp => hp) _ }, h.2⟩
  setInfo s p info h hp := ⟨h.1.updateNode (h.2 p hp) _, h.2⟩
  addEndpoint s p ep h hp := ⟨h.1.updateNode (h.2 p hp) _, h.2⟩

theorem keeps_frame (cfg : ClientConfig) (env : LoadEnv) (s₀ : Loader) :
    Keeps (Frame s₀) (loadSteps cfg env) := by
  have h := triple_loadSteps cfg env (frame_unclocked s₀) (frame_fresh_invariant s₀)
    (fun s network h => { h with networks := h.networks.alloc (fun _ hp => hp) _ })
    (fun s h => ⟨{ h with nodeMaps := h.nodeMaps.set (not_not.mpr h.nodes_eq) _ }, by simp [Fresh]⟩)
    (fun s policy _ h => ⟨{ h.1 with policies := h.1.policies.alloc (fun _ hp => hp) _ }, h.2⟩)
  apply h.imp (fun _ hs => hs) (fun _ _ hs => hs.1)
  rintro _ s (hs | hs)
  · exact hs
  · exact hs.1

/-- The pointers of the client are those of objects that exist. -/
structure WellFormed (s : Loader) : Prop where
  members_lt : s.client.members < s.memory.memberMaps.next
  nodes_lt : s.client.nodes < s.memory.nodeMaps.next
  network_lt : ∀ p ∈ s.client.network, p < s.memory.networks.next
  member_lt : ∀ p ∈ s.memberMap.values, p < s.memory.members.next
  node_lt : ∀ p ∈ s.nodeMap.values, p < s.memory.nodes.next
  relay_lt : ∀ p ∈ s.client.relays, p < s.memory.relays.next
  acl_lt : ∀ p ∈ s.client.acl, p < s.memory.policies.next

/-- The fields of the cached state, with the contents of the two maps. -/
structure SameFields (s s' : Loader) : Prop where
  network : s'.client.network = s.client.network
  members : s'.memberMap = s.memberMap
  nodes : s'.nodeMap = s.nodeMap
  relays : s'.client.relays = s.client.relays
  acl : s'.client.acl = s.client.acl

/-- No record that existed in `s` is another one in `s'`. -/
structure Untouched (s s' : Loader) : Prop where
  networks : ∀ p < s.memory.networks.next, s'.memory.networks.cell p = s.memory.networks.cell p
  members : ∀ p < s.memory.members.next, s'.memory.members.cell p = s.memory.members.cell p
  nodes : ∀ p < s.memory.nodes.next, s'.memory.nodes.cell p = s.memory.nodes.cell p
  relays : ∀ p < s.memory.relays.next, s'.memory.relays.cell p = s.memory.relays.cell p
  policies : ∀ p < s.memory.policies.next, s'.memory.policies.cell p = s.memory.policies.cell p

theorem Frame.untouched {s₁ s' : Loader} (h : Frame s.start.stateSnapshot.2 s₁)
    (hm : s'.memory = s₁.memory) : Untouched s s' := by
  constructor
  all_goals rw [hm]
  · exact h.networks.cell_eq
  · exact h.members.cell_eq
  · exact h.nodes.cell_eq
  · exact h.relays.cell_eq
  · exact h.policies.cell_eq

variable (cfg : ClientConfig) (env : LoadEnv)

/-- A restored state has the fields of before, on a heap that keeps the clones of the maps. -/
theorem WellFormed.sameFields (h : s.WellFormed) {s₁ : Loader}
    (hf : Frame s.start.stateSnapshot.2 s₁) :
    SameFields s (s₁.restoreState s.start.stateSnapshot.1) := by
  refine ⟨rfl, ?_, ?_, rfl, rfl⟩
  · have hne : s.memory.memberMaps.next ≠ s.client.members := Nat.ne_of_gt h.members_lt
    exact (hf.memberMaps.cell_eq _ hne).trans (Heap.alloc_cell_self _ _)
  · have hne : s.memory.nodeMaps.next ≠ s.client.nodes := Nat.ne_of_gt h.nodes_lt
    exact (hf.nodeMaps.cell_eq _ hne).trans (Heap.alloc_cell_self _ _)

theorem WellFormed.congr {s' : Loader} (h : s.WellFormed) (hm : s'.memory = s.memory)
    (hc : s'.client.network = s.client.network ∧ s'.client.members = s.client.members ∧
      s'.client.nodes = s.client.nodes ∧ s'.client.relays = s.client.relays ∧
      s'.client.acl = s.client.acl) : s'.WellFormed := by
  obtain ⟨hnetwork, hmembers, hnodes, hrelays, hacl⟩ := hc
  have hmemberMap : s'.memberMap = s.memberMap := by rw [memberMap, memberMap, hm, hmembers]
  have hnodeMap : s'.nodeMap = s.nodeMap := by rw [nodeMap, nodeMap, hm, hnodes]
  refine ⟨?_, ?_, ?_, ?_, ?_, ?_, ?_⟩
  · rw [hm, hmembers]
    exact h.members_lt
  · rw [hm, hnodes]
    exact h.nodes_lt
  · rw [hm, hnetwork]
    exact h.network_lt
  · rw [hm, hmemberMap]
    exact h.member_lt
  · rw [hm, hnodeMap]
    exact h.node_lt
  · rw [hm, hrelays]
    exact h.relay_lt
  · rw [hm, hacl]
    exact h.acl_lt

@[simp] theorem memberMap_addMember (did : String) (member : MemberRecord) (s : Loader) :
    (s.addMember did member).memberMap = s.memberMap.insert did s.memory.members.next :=
  Heap.set_cell_self _ _ _

@[simp] theorem memberMap_clearMembers (s : Loader) : s.clearMembers.memberMap = ∅ :=
  Heap.set_cell_self _ _ _

theorem wellFormed_invariant : LoadInvariant WellFormed where
  tick _ h := h.congr rfl ⟨rfl, rfl, rfl, rfl, rfl⟩
  accept _ _ h := h.congr rfl ⟨rfl, rfl, rfl, rfl, rfl⟩
  pass _ _ h := h.congr rfl ⟨rfl, rfl, rfl, rfl, rfl⟩
  countUndecryptable _ h := h.congr rfl ⟨rfl, rfl, rfl, rfl, rfl⟩
  countUnreadable _ h := h.congr rfl ⟨rfl, rfl, rfl, rfl, rfl⟩
  countDropped _ _ h := h.congr rfl ⟨rfl, rfl, rfl, rfl, rfl⟩
  addNode s did node h := by
    refine { h with node_lt := ?_ }
    intro p hp
    rw [nodeMap_addNode] at hp
    rcases GoMap.mem_values_insert hp with rfl | hp
    · exact Nat.lt_succ_self _
    · exact Nat.lt_succ_of_lt (h.node_lt p hp)
  clearMembers s h := { h with member_lt := by simp }
  addMember s did member h := by
    refine { h with member_lt := ?_ }
    intro p hp
    rw [memberMap_addMember] at hp
    rcases GoMap.mem_values_insert hp with rfl | hp
    · exact Nat.lt_succ_self _
    · exact Nat.lt_succ_of_lt (h.member_lt p hp)
  clearRelays s h := { h with relay_lt := by simp [clearRelays] }
  addRelay s relay h := by
    refine { h with relay_lt := ?_ }
    intro p hp
    rcases List.mem_append.mp hp with hp | hp
    · exact Nat.lt_succ_of_lt (h.relay_lt p hp)
    · rw [List.mem_singleton.mp hp]
      exact Nat.lt_succ_self _
  setInfo s p info h _ := { h with }
  addEndpoint s p ep h _ := { h with }

theorem keeps_wellFormed : Keeps WellFormed (loadSteps cfg env) := by
  refine (triple_loadSteps cfg env wellFormed_invariant.toUnclocked wellFormed_invariant
    ?_ ?_ ?_).imp (fun _ hs => hs) (fun _ _ hs => hs) (fun _ _ hs => hs.elim id id)
  · intro s network h
    refine { h with network_lt := ?_ }
    rintro p ⟨⟩
    exact Nat.lt_succ_self _
  · intro s h
    exact { h with node_lt := by simp }
  · intro s policy _ h
    refine { h with acl_lt := ?_ }
    rintro p ⟨⟩
    exact Nat.lt_succ_self _

theorem WellFormed.start (h : s.WellFormed) : s.start.stateSnapshot.2.WellFormed := by
  have hmembers : s.start.stateSnapshot.2.memberMap = s.memberMap :=
    Heap.alloc_cell_of_lt _ _ h.members_lt
  have hnodes : s.start.stateSnapshot.2.nodeMap = s.nodeMap :=
    Heap.alloc_cell_of_lt _ _ h.nodes_lt
  refine ⟨Nat.lt_succ_of_lt h.members_lt, Nat.lt_succ_of_lt h.nodes_lt, h.network_lt, ?_, ?_,
    h.relay_lt, h.acl_lt⟩
  · rw [hmembers]
    exact h.member_lt
  · rw [hnodes]
    exact h.node_lt

/-- A rollback leaves no pointer dangling. -/
theorem WellFormed.restoreState (h : s.WellFormed) {s₁ : Loader}
    (hf : Frame s.start.stateSnapshot.2 s₁) :
    (s₁.restoreState s.start.stateSnapshot.1).WellFormed := by
  have hsame := h.sameFields hf
  refine ⟨Nat.lt_of_lt_of_le (Nat.lt_succ_self _) hf.memberMaps.next_le,
    Nat.lt_of_lt_of_le (Nat.lt_succ_self _) hf.nodeMaps.next_le, ?_, ?_, ?_, ?_, ?_⟩
  · intro p hp
    exact Nat.lt_of_lt_of_le (h.network_lt p hp) hf.networks.next_le
  · rw [hsame.members]
    intro p hp
    exact Nat.lt_of_lt_of_le (h.member_lt p hp) hf.members.next_le
  · rw [hsame.nodes]
    intro p hp
    exact Nat.lt_of_lt_of_le (h.node_lt p hp) hf.nodes.next_le
  · intro p hp
    exact Nat.lt_of_lt_of_le (h.relay_lt p hp) hf.relays.next_le
  · intro p hp
    exact Nat.lt_of_lt_of_le (h.acl_lt p hp) hf.policies.next_le

theorem WellFormed.load (h : s.WellFormed) : (s.load cfg env).WellFormed := by
  rw [Loader.load]
  cases hl : loadState cfg env s with
  | ok resp s' => exact (keeps_wellFormed cfg env).ok h.start (loadState_ok.mp hl)
  | error e s' =>
    obtain ⟨s₁, hrun, rfl⟩ := loadState_error.mp hl
    exact h.restoreState ((keeps_frame cfg env _).error (Frame.refl _) hrun)

theorem newDWNClient_wellFormed (memory : Memory) : (newDWNClient memory).WellFormed := by
  have hmembers : (newDWNClient memory).memberMap = ∅ := Heap.alloc_cell_self _ _
  have hnodes : (newDWNClient memory).nodeMap = ∅ := Heap.alloc_cell_self _ _
  refine ⟨Nat.lt_succ_self _, Nat.lt_succ_self _, by simp [newDWNClient], ?_, ?_,
    by simp [newDWNClient], by simp [newDWNClient]⟩
  · simp [hmembers]
  · simp [hnodes]

/-- Every client is well-formed, whatever loads it has gone through. -/
theorem wellFormed_loads (memory : Memory) (envs : List LoadEnv) :
    (exec (load cfg) (newDWNClient memory) envs).WellFormed :=
  exec_invariant (newDWNClient_wellFormed memory) (fun _ env h => h.load cfg env) envs

/-- A load that fails leaves the cached fields as they were, and no load writes to a record that
existed before it. -/
theorem loadState_allOrNothing (h : s.WellFormed) :
    (∀ e s', loadState cfg env s = .error e s' → SameFields s s') ∧
    Untouched s (finalState (loadState cfg env s)) := by
  have hkeeps := keeps_frame cfg env s.start.stateSnapshot.2
  have hstart := Frame.refl s.start.stateSnapshot.2
  constructor
  · intro e s' he
    obtain ⟨s₁, hrun, rfl⟩ := loadState_error.mp he
    exact h.sameFields (hkeeps.error hstart hrun)
  · cases hl : loadState cfg env s with
    | ok resp s' =>
      have hf := hkeeps.ok hstart (loadState_ok.mp hl)
      exact hf.untouched rfl
    | error e s' =>
      obtain ⟨s₁, hrun, rfl⟩ := loadState_error.mp hl
      have hf := hkeeps.error hstart hrun
      exact hf.untouched rfl

end Loader

/-- A platform for the examples: addresses are taken as they stand, and times are not read. -/
def homePlatform : Platform where
  parseAddr := fun text => if text = "" then none else some text
  parsePrefix := some
  hostPrefix := (· ++ "/32")
  parseTime := fun _ => none
  allocateMeshIP := fun _ _ => none
  deriveKey := fun _ => none
  nodeIdentityForDID := fun _ did => (did.length, "dwn-" ++ did)

def homeConfig : ClientConfig := ⟨homePlatform, "bafy-network", "did:jwk:alice"⟩

/-- A client that has loaded a network of one node, one member, one relay and a policy. -/
def homeClient : Loader where
  client := { network := some 0, members := 0, nodes := 0, relays := [0], acl := some 0 }
  memory :=
    { networks := ⟨1, fun _ => { name := "home", meshCIDR := "10.200.0.0/16" }⟩
      members := ⟨1, fun _ => { did := "did:dht:carol", recordID := "bafy-carol" }⟩
      nodes := ⟨1, fun _ =>
        { did := "did:jwk:alice", meshIP := "10.200.0.2", recordID := "bafy-alice" }⟩
      relays := ⟨1, fun _ => { url := "https://relay.example", region := "home" }⟩
      policies := ⟨1, fun _ => { defaultAction := "drop", rules := [] }⟩
      memberMaps := ⟨1, fun _ => AList.singleton "did:dht:carol" 0⟩
      nodeMaps := ⟨1, fun _ => AList.singleton "did:jwk:alice" 0⟩ }

/-- The heap before the client's first load. -/
def emptyMemory : Memory where
  networks := ⟨0, fun _ => { name := "", meshCIDR := "" }⟩
  members := ⟨0, fun _ => {}⟩
  nodes := ⟨0, fun _ => {}⟩
  relays := ⟨0, fun _ => { url := "", region := "" }⟩
  policies := ⟨0, fun _ => { rules := [] }⟩
  memberMaps := ⟨0, fun _ => ∅⟩
  nodeMaps := ⟨0, fun _ => ∅⟩

/-- A reply that can be used. -/
def replyWith {α : Type} (entries : List (Entry α)) : Except LoadError (Option (DwnReply α)) :=
  .ok (some { entries := .ok entries })

/-- The answers of a network of one node. -/
def homeEnv : LoadEnv where
  done := fun _ => false
  done_succ := fun _ h => h
  ctxError := { canceled := true, message := "context canceled" }
  network := .ok (some { entry := { value := { name := "home", meshCIDR := "10.200.0.0/16" } } })
  nodes := replyWith
    [{ metadata := ⟨"bafy-alice", "bafy-network", "did:jwk:alice"⟩,
       value := { meshIP := "10.200.0.2" } }]
  members := replyWith []
  memberNodes := fun _ => replyWith []
  relays := replyWith []
  acl := replyWith []
  nodeInfo := fun _ => replyWith []
  endpoints := fun _ => replyWith []

/-- A load that the anchor stops with a rate limit at its last query. -/
def limitedEnv : LoadEnv :=
  { homeEnv with endpoints := fun _ => .ok (some { code := 429, entries := .ok [] }) }

theorem homeClient_restored :
    homeClient.WellFormed ∧
    (∃ e s', loadState homeConfig limitedEnv homeClient = .error e s' ∧
      Loader.SameFields homeClient s') ∧
    Loader.Untouched homeClient (finalState (loadState homeConfig limitedEnv homeClient)) := by
  have hwf : homeClient.WellFormed :=
    ⟨by decide, by decide, by decide, by decide, by decide, by decide, by decide⟩
  have hload := Loader.loadState_allOrNothing homeConfig limitedEnv hwf
  have hfails : failed (loadState homeConfig limitedEnv homeClient) = true := by decide +kernel
  cases hl : loadState homeConfig limitedEnv homeClient with
  | ok resp s' =>
    rw [hl] at hfails
    cases hfails
  | error e s' => exact ⟨hwf, ⟨e, s', rfl, hload.1 e s' hl⟩, hl ▸ hload.2⟩

end Meshd.Control

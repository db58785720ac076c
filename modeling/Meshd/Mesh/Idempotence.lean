import Meshd.Mesh.SingleUse

namespace Meshd.Mesh

open Meshd.Framework

section Records
variable {a : Approver} {anchor : Anchor} {req : NodeRequestData} {key : PreAuthKeyData}
  {calls : RequestCalls} {present : Bool}

/-- The node lies where `nodeRecordExists` looks: at the top level, or under a member. -/
def Anchor.Places (anchor : Anchor) (node : NodeRecord) : Prop :=
  node.memberRecordID = "" ∨ ∃ m ∈ anchor.members, m.id = node.memberRecordID

theorem memberNodeExists_false {members : List MemberRecord} {nodeDID : String}
    (h : memberNodeExists anchor nodeDID calls members = some false) {n : NodeRecord}
    (hn : n ∈ anchor.nodes) {m : MemberRecord} (hm : m ∈ members) (hid : m.id = n.memberRecordID) :
    n.recipient ≠ nodeDID := by
  induction members with
  | nil => simp at hm
  | cons m' ms ih =>
    rw [memberNodeExists] at h
    split_ifs at h with hq hany
    · cases h
    · rcases List.mem_cons.mp hm with rfl | hm
      · intro hr
        apply hany
        rw [List.any_eq_true]
        exact ⟨n, hn, by simp [hr, hid]⟩
      · exact ih h hm

/-- A search that finds no record of the node has looked at all of them. -/
theorem nodeRecordExists_false {nodeDID : String}
    (h : nodeRecordExists anchor nodeDID calls = some false) {n : NodeRecord}
    (hn : n ∈ anchor.nodes) (hp : anchor.Places n) : n.recipient ≠ nodeDID := by
  rw [nodeRecordExists] at h
  split_ifs at h with hq hany hl
  · cases h
  · rcases hp with htop | ⟨m, hm, hid⟩
    · intro hr
      apply hany
      rw [List.any_eq_true]
      exact ⟨n, hn, by simp [hr, htop]⟩
    · exact memberNodeExists_false h hn hm hid

theorem checkRequest_present (h : checkRequest a anchor req calls = .ok (key, present)) :
    nodeRecordExists anchor req.nodeDID calls = some present := by
  simp only [checkRequest] at h
  cases hr : readPreAuthKey anchor req.preAuthKeyID calls with
  | none =>
    rw [hr] at h
    cases h
  | some key' =>
    rw [hr] at h
    dsimp only at h
    split_ifs at h
    cases hn : nodeRecordExists anchor req.nodeDID calls with
    | none =>
      rw [hn] at h
      cases h
    | some present' =>
      rw [hn] at h
      obtain ⟨-, rfl⟩ := Prod.mk.inj (Except.ok.inj h)
      rfl

/-- The member record a request goes on with is one of the anchor's. -/
theorem admitMember_some {A : Anchor} {memberRecordID : String}
    (h : admitMember anchor req key calls = (A, some memberRecordID)) :
    memberRecordID = "" ∨ ∃ m ∈ A.members, m.id = memberRecordID := by
  obtain ⟨-, hid⟩ | ⟨-, ⟨m, hm, rfl, hid⟩ | ⟨-, label, rfl⟩⟩ := admitMember_found h
  · exact .inl hid
  · exact .inr ⟨m, hm, hid⟩
  · exact .inr ⟨_, List.mem_cons_self, rfl⟩

/-- The member and node records one accepted request leaves: at most one new member, for an owner
that had none, and at most one new node, which the next search finds. -/
structure Adds (anchor A : Anchor) (req : NodeRequestData) (present : Bool) : Prop where
  member : A.members = anchor.members ∨ ∃ m : MemberRecord, A.members = m :: anchor.members ∧
    ∀ m' ∈ anchor.members, m'.recipient ≠ m.recipient
  node : A.nodes = anchor.nodes ∨ present = false ∧ ∃ n : NodeRecord,
    A.nodes = n :: anchor.nodes ∧ n.recipient = req.nodeDID ∧ A.Places n

theorem admitMember_adds (anchor : Anchor) (req : NodeRequestData) (key : PreAuthKeyData)
    (calls : RequestCalls) (present : Bool) :
    Adds anchor (admitMember anchor req key calls).1 req present := by
  rcases admitMember_cases anchor req key calls with he | ⟨hw, id, label, he⟩
  · rw [he]
    exact ⟨.inl rfl, .inl rfl⟩
  · rw [he]
    refine ⟨.inr ⟨_, rfl, fun m' hm' hr => ?_⟩, .inl rfl⟩
    have hnone := List.find?_eq_none.mp hw.2.2.2.1 m' hm'
    exact hnone (by simpa using hr)

theorem admitRequest_adds (a : Approver) (anchor : Anchor) (req : NodeRequestData)
    (key : PreAuthKeyData) (present : Bool) (calls : RequestCalls) :
    Adds anchor (admitRequest a anchor req key present calls).1 req present := by
  have hmember := admitMember_adds anchor req key calls present
  unfold admitRequest
  dsimp only
  generalize (if req.effectiveOwnerDID = "" then req.nodeDID else req.effectiveOwnerDID) = memberDID
  rcases hm : admitMember anchor req key calls with ⟨A, _ | memberRecordID⟩
  · rw [hm] at hmember
    exact hmember
  have hplace := admitMember_some hm
  rw [hm] at hmember
  dsimp only at hmember ⊢
  -- the member stage writes no node record
  have hnodes : A.nodes = anchor.nodes := by
    rcases admitMember_cases anchor req key calls with he | ⟨-, id, label, he⟩
    · rw [hm] at he
      exact congrArg Anchor.nodes he
    · rw [hm] at he
      exact (congrArg Anchor.nodes he).trans rfl
  have hnode : Adds anchor (admitNode a A req key present memberRecordID memberDID calls).1 req
      present := by
    rcases admitNode_cases a A req key present memberRecordID memberDID calls with
      he | ⟨hw, ip, he⟩
    · rw [he]
      exact hmember
    · rw [he]
      refine ⟨hmember.member, .inr ⟨hw.1, requestedNode req key memberRecordID memberDID ip, ?_,
        rfl, hplace⟩⟩
      rw [← hnodes]
      rfl
  rcases hn : admitNode a A req key present memberRecordID memberDID calls with ⟨B, _ | verdict⟩
  · rw [hn] at hnode
    dsimp only at hnode ⊢
    obtain ⟨ds, he | ⟨-, he⟩⟩ := settleRequest_cases a B req key memberRecordID memberDID calls
    · rw [he]
      exact ⟨hnode.member, hnode.node⟩
    · rw [he]
      exact ⟨hnode.member, hnode.node⟩
  · rw [hn] at hnode
    exact hnode

end Records

namespace Anchor

/-- What the passes have created since `start`: at most one member record for an owner and at most
one node record for a node, and later searches find every one of these nodes. -/
structure CreatedOnce (start anchor : Anchor) (members : List MemberRecord)
    (nodes : List NodeRecord) : Prop where
  members_eq : anchor.members = members ++ start.members
  nodes_eq : anchor.nodes = nodes ++ start.nodes
  members_nodup : (members.map (·.recipient)).Nodup
  nodes_nodup : (nodes.map (·.recipient)).Nodup
  placed : ∀ n ∈ nodes, anchor.Places n

variable {a : Approver} {start anchor A : Anchor} {members : List MemberRecord}
  {nodes : List NodeRecord} {req : NodeRequestData} {present : Bool} {calls : RequestCalls}

theorem Places.mono {n : NodeRecord} (h : anchor.Places n)
    (hsub : anchor.members ⊆ A.members) : A.Places n := by
  rcases h with h | ⟨m, hm, hid⟩
  · exact .inl h
  · exact .inr ⟨m, hsub hm, hid⟩

theorem CreatedOnce.addMember (h : CreatedOnce start anchor members nodes)
    (hadds : Adds anchor A req present) (hnodes : A.nodes = anchor.nodes) :
    ∃ members', CreatedOnce start A members' nodes := by
  rcases hadds.member with he | ⟨m, he, hnew⟩
  · refine ⟨members, he.trans h.members_eq, hnodes.trans h.nodes_eq, h.members_nodup,
      h.nodes_nodup, fun n hn => (h.placed n hn).mono (by rw [he]; exact List.Subset.refl _)⟩
  · refine ⟨m :: members, by rw [he, h.members_eq]; rfl, hnodes.trans h.nodes_eq, ?_,
      h.nodes_nodup, fun n hn => (h.placed n hn).mono (by rw [he]; exact List.subset_cons_self _ _)⟩
    rw [List.map_cons, List.nodup_cons]
    refine ⟨fun hmem => ?_, h.members_nodup⟩
    obtain ⟨m', hm', hr⟩ := List.mem_map.mp hmem
    exact hnew m' (by rw [h.members_eq]; exact List.mem_append_left _ hm') hr

theorem CreatedOnce.adds (h : CreatedOnce start anchor members nodes)
    (hadds : Adds anchor A req present)
    (hpresent : nodeRecordExists anchor req.nodeDID calls = some present) :
    ∃ members' nodes', CreatedOnce start A members' nodes' := by
  rcases hadds.node with hnodes | ⟨rfl, n, hn, hr, hp⟩
  · obtain ⟨members', h'⟩ := h.addMember hadds hnodes
    exact ⟨members', nodes, h'⟩
  · -- the record is written only after a search that would have found a created one
    have hmember : Adds anchor { A with nodes := anchor.nodes } req false :=
      ⟨hadds.member, .inl rfl⟩
    obtain ⟨members', h'⟩ := h.addMember hmember rfl
    refine ⟨members', n :: nodes, h'.members_eq, by rw [hn, h.nodes_eq]; rfl, h'.members_nodup,
      ?_, ?_⟩
    · rw [List.map_cons, List.nodup_cons]
      refine ⟨fun hmem => ?_, h.nodes_nodup⟩
      obtain ⟨n', hn', hr'⟩ := List.mem_map.mp hmem
      have hold : n' ∈ anchor.nodes := by
        rw [h.nodes_eq]
        exact List.mem_append_left _ hn'
      exact nodeRecordExists_false hpresent hold (h.placed n' hn') (hr'.trans hr)
    · intro n' hn'
      rcases List.mem_cons.mp hn' with rfl | hn'
      · exact hp
      · exact h'.placed n' hn'

theorem CreatedOnce.handle (h : ∃ members nodes, CreatedOnce start anchor members nodes)
    (request : PendingRequest) :
    ∃ members nodes, CreatedOnce start (handle a anchor request) members nodes := by
  obtain hsame | ⟨req, key, present, -, hcheck, hadmitted⟩ := handle_cases a anchor request
  · rw [hsame]
    exact h
  · rw [hadmitted]
    obtain ⟨members, nodes, h⟩ := h
    exact h.adds (admitRequest_adds a anchor req key present request.calls)
      (checkRequest_present hcheck)

/-- However the calls of the passes end, the passes together create at most one node record for a
node and at most one member record for an owner. -/
theorem passes_createOnce (a : Approver) (anchor : Anchor) (passes : List (List PendingRequest)) :
    ∃ members nodes,
      (exec (pass a) anchor passes).members = members ++ anchor.members ∧
      (exec (pass a) anchor passes).nodes = nodes ++ anchor.nodes ∧
      (members.map (·.recipient)).Nodup ∧ (nodes.map (·.recipient)).Nodup := by
  have h : ∃ members nodes, CreatedOnce anchor (exec (pass a) anchor passes) members nodes := by
    rw [passes_eq_exec]
    exact exec_invariant (P := fun A => ∃ members nodes, CreatedOnce anchor A members nodes)
      ⟨[], [], rfl, rfl, List.nodup_nil, List.nodup_nil, by simp⟩
      (fun A request hA => CreatedOnce.handle hA request) _
  obtain ⟨members, nodes, h⟩ := h
  exact ⟨members, nodes, h.members_eq, h.nodes_eq, h.members_nodup, h.nodes_nodup⟩

end Anchor

end Meshd.Mesh

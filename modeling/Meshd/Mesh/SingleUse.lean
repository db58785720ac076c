import Meshd.Mesh.PreAuth

namespace Meshd.Mesh

open Meshd.Framework

namespace Anchor

/-- The passes of an approver, one after the other. -/
def pass (a : Approver) (anchor : Anchor) (requests : List PendingRequest) : Anchor :=
  (approvePreAuthRequests a anchor requests).1

/-- One request as a step of its own. -/
def handle (a : Approver) (anchor : Anchor) (request : PendingRequest) : Anchor :=
  (approveRequest a anchor request).1

theorem pass_eq_exec (a : Approver) (anchor : Anchor) (requests : List PendingRequest) :
    pass a anchor requests = exec (handle a) anchor requests := by
  have h (result : ApprovePreAuthResult) :
      (requests.foldl (fun (state : Anchor × ApprovePreAuthResult) request =>
        ((approveRequest a state.1 request).1, state.2.count (approveRequest a state.1 request).2))
        (anchor, result)).1 = exec (handle a) anchor requests := by
    induction requests generalizing anchor result with
    | nil => rfl
    | cons r rs ih => exact ih _ _
  exact h {}

theorem passes_eq_exec (a : Approver) (anchor : Anchor) (passes : List (List PendingRequest)) :
    exec (pass a) anchor passes = exec (handle a) anchor passes.flatten := by
  induction passes generalizing anchor with
  | nil => rfl
  | cons p ps ih =>
    rw [exec_cons, ih, pass_eq_exec, List.flatten_cons, exec_append]

/-- At most one node DID and at most one member DID got a record under the key. -/
def AdmitsOne (anchor : Anchor) (keyID : String) : Prop :=
  (∀ d ∈ anchor.nodesUnder keyID, ∀ d' ∈ anchor.nodesUnder keyID, d = d') ∧
  (∀ d ∈ anchor.membersUnder keyID, ∀ d' ∈ anchor.membersUnder keyID, d = d')

instance (anchor : Anchor) (keyID : String) : Decidable (anchor.AdmitsOne keyID) :=
  inferInstanceAs (Decidable (_ ∧ _))

end Anchor

section Conditions
variable (a : Approver) (anchor : Anchor) (req : NodeRequestData) (calls : RequestCalls)

/-- The request gets its owner a member record. -/
def WritesMember : Prop :=
  req.effectiveOwnerDID ≠ "" ∧ req.effectiveOwnerDID ≠ req.nodeDID ∧ calls.memberQuery = true ∧
  anchor.members.find? (·.recipient = req.effectiveOwnerDID) = none ∧
  calls.memberWrite.carriedOut = true

/-- The request goes on with its owner's member record, or needs none. -/
def FindsMember : Prop :=
  (req.effectiveOwnerDID ≠ "" ∧ req.effectiveOwnerDID ≠ req.nodeDID) →
  calls.memberQuery = true ∧
  (anchor.members.find? (·.recipient = req.effectiveOwnerDID) = none → calls.memberWrite = .ok)

/-- The request gets its node a node record. -/
def WritesNode (present : Bool) : Prop :=
  FindsMember anchor req calls ∧ present = false ∧ (a.allocateMeshIP req.nodeDID).isSome = true ∧
  calls.nodeWrite.carriedOut = true

/-- Nothing between the first record and the used mark fails. -/
structure GoesThrough (present : Bool) : Prop where
  member : calls.memberWrite ≠ .lost
  address : present = false → (a.allocateMeshIP req.nodeDID).isSome = true
  node : present = false → calls.nodeWrite = .ok
  delivery : a.ownerRoot = true →
    calls.delivery "network/node" = .ok ∧ calls.delivery "network/member/node" = .ok
  mark : calls.markWrite ≠ .failed

end Conditions

/-- An accepted request under the key that writes a record goes through to the used mark, and a
member record it writes is for the one owner of its node. -/
def SpendsKey (a : Approver) (keyID : String) (ownerOf : String → String) (anchor : Anchor)
    (request : PendingRequest) : Prop :=
  ∀ req key present, request.data = some req → req.preAuthKeyID = keyID →
    checkRequest a anchor req request.calls = .ok (key, present) →
    (WritesMember anchor req request.calls ∨ WritesNode a anchor req request.calls present →
      GoesThrough a req request.calls present) ∧
    (WritesMember anchor req request.calls → req.effectiveOwnerDID = ownerOf req.nodeDID)

section Stages
variable {a : Approver} {anchor : Anchor} {req : NodeRequestData} {key : PreAuthKeyData}
  {calls : RequestCalls} {present : Bool} {memberRecordID memberDID : String}

/-- All the member stage can do. -/
theorem admitMember_cases (anchor : Anchor) (req : NodeRequestData) (key : PreAuthKeyData)
    (calls : RequestCalls) :
    (admitMember anchor req key calls).1 = anchor ∨
    WritesMember anchor req calls ∧ ∃ id label, (admitMember anchor req key calls).1 =
      anchor.addMember req.preAuthKeyID ⟨id, req.effectiveOwnerDID, label⟩ := by
  unfold admitMember
  dsimp only
  by_cases ho : req.effectiveOwnerDID ≠ "" ∧ req.effectiveOwnerDID ≠ req.nodeDID
  · rw [if_pos ho]
    simp only [ensureMemberRecord]
    by_cases hq : calls.memberQuery = false
    · rw [if_pos hq]
      exact .inl rfl
    · rw [if_neg hq]
      cases hm : anchor.members.find? (·.recipient = req.effectiveOwnerDID) with
      | some m => exact .inl rfl
      | none =>
        by_cases hw : calls.memberWrite.carriedOut = true
        · refine .inr ⟨⟨ho.1, ho.2, by simpa using hq, hm, hw⟩, calls.memberRecordID,
            firstNonEmpty [req.label, key.label], ?_⟩
          dsimp only
          rw [if_pos hw]
        · dsimp only
          rw [if_neg hw]
          exact .inl rfl
  · rw [if_neg ho]
    exact .inl rfl

/-- The member record a request goes on with: none is asked for, there is one, or one is written. -/
theorem admitMember_found {A : Anchor}
    (h : admitMember anchor req key calls = (A, some memberRecordID)) :
    (req.effectiveOwnerDID = "" ∨ req.effectiveOwnerDID = req.nodeDID) ∧ memberRecordID = "" ∨
    req.effectiveOwnerDID ≠ req.nodeDID ∧
      ((∃ m ∈ anchor.members, A = anchor ∧ m.id = memberRecordID) ∨
        memberRecordID = calls.memberRecordID ∧ ∃ label, A =
          anchor.addMember req.preAuthKeyID ⟨memberRecordID, req.effectiveOwnerDID, label⟩) := by
  unfold admitMember at h
  dsimp only at h
  by_cases ho : req.effectiveOwnerDID ≠ "" ∧ req.effectiveOwnerDID ≠ req.nodeDID
  · rw [if_pos ho, ensureMemberRecord] at h
    refine .inr ⟨ho.2, ?_⟩
    by_cases hq : calls.memberQuery = false
    · rw [if_pos hq] at h
      cases h
    rw [if_neg hq] at h
    cases hm : anchor.members.find? (·.recipient = req.effectiveOwnerDID) with
    | some m =>
      rw [hm] at h
      obtain ⟨rfl, hid⟩ := Prod.mk.inj h
      exact .inl ⟨m, List.mem_of_find?_eq_some hm, rfl, Option.some.inj hid⟩
    | none =>
      rw [hm] at h
      obtain ⟨rfl, hid⟩ := Prod.mk.inj h
      by_cases hw : calls.memberWrite = .ok
      · rw [if_pos hw] at hid
        obtain rfl := Option.some.inj hid
        rw [if_pos (by simp [hw, CallOutcome.carriedOut])]
        exact .inr ⟨rfl, _, rfl⟩
      · rw [if_neg hw] at hid
        cases hid
  · rw [if_neg ho] at h
    refine .inl ⟨?_, (Option.some.inj (Prod.mk.inj h).2).symm⟩
    rwa [not_and_or, not_ne_iff, not_ne_iff] at ho

theorem admitMember_isSome (key : PreAuthKeyData) :
    (admitMember anchor req key calls).2.isSome = true ↔ FindsMember anchor req calls := by
  unfold admitMember FindsMember
  dsimp only
  by_cases ho : req.effectiveOwnerDID ≠ "" ∧ req.effectiveOwnerDID ≠ req.nodeDID
  · rw [if_pos ho]
    simp only [ensureMemberRecord]
    by_cases hq : calls.memberQuery = false
    · simp [hq, ho.1, ho.2]
    · rw [if_neg hq]
      cases hm : anchor.members.find? (·.recipient = req.effectiveOwnerDID) with
      | some m => simp [hq, ho.1, ho.2]
      | none =>
        by_cases hw : calls.memberWrite = .ok
        · simp [hw, hq, ho.1, ho.2]
        · simp [hw, hq, ho.1, ho.2]
  · rw [if_neg ho]
    simp [ho]

/-- All the node stage can do. -/
theorem admitNode_cases (a : Approver) (anchor : Anchor) (req : NodeRequestData)
    (key : PreAuthKeyData) (present : Bool) (memberRecordID memberDID : String)
    (calls : RequestCalls) :
    (admitNode a anchor req key present memberRecordID memberDID calls).1 = anchor ∨
    (present = false ∧ (a.allocateMeshIP req.nodeDID).isSome = true ∧
      calls.nodeWrite.carriedOut = true) ∧
    ∃ meshIP, (admitNode a anchor req key present memberRecordID memberDID calls).1 =
      anchor.addNode req.preAuthKeyID
        (requestedNode req key memberRecordID memberDID meshIP) := by
  simp only [admitNode, registerNode]
  cases present with
  | true => exact .inl rfl
  | false =>
    rw [if_neg (by simp)]
    cases hip : a.allocateMeshIP req.nodeDID with
    | none => exact .inl rfl
    | some ip =>
      dsimp only
      by_cases hw : calls.nodeWrite.carriedOut = true
      · rw [if_pos hw]
        exact .inr ⟨⟨rfl, rfl, hw⟩, ip, rfl⟩
      · rw [if_neg hw]
        exact .inl rfl

theorem admitNode_none (anchor : Anchor) (key : PreAuthKeyData) (memberRecordID memberDID : String)
    (haddr : present = false → (a.allocateMeshIP req.nodeDID).isSome = true)
    (hnode : present = false → calls.nodeWrite = .ok) :
    (admitNode a anchor req key present memberRecordID memberDID calls).2 = none := by
  simp only [admitNode, registerNode]
  cases present with
  | true => rfl
  | false =>
    obtain ⟨ip, hip⟩ := Option.isSome_iff_exists.mp (haddr rfl)
    simp [hip, hnode rfl]

theorem deliverTargets_eq (calls : RequestCalls) (anchor : Anchor)
    (targets : List DeliveryTarget) :
    ∃ ds, (deliverTargets calls anchor targets).1 = { anchor with deliveries := ds } := by
  induction targets generalizing anchor with
  | nil => exact ⟨anchor.deliveries, rfl⟩
  | cons t ts ih =>
    rw [deliverTargets]
    dsimp only
    split_ifs
    · exact ih anchor
    · exact ⟨_, rfl⟩
    · exact ⟨anchor.deliveries, rfl⟩
    · exact ih { anchor with deliveries := _ }
    · exact ih anchor

/-- The deliveries leave every other record alone. -/
theorem deliverJoinerAudienceKeys_eq (a : Approver) (anchor : Anchor)
    (memberRecordID memberDID nodeDID : String) (calls : RequestCalls) :
    ∃ ds, (deliverJoinerAudienceKeys a anchor memberRecordID memberDID nodeDID calls).1 =
      { anchor with deliveries := ds } := by
  simp only [deliverJoinerAudienceKeys]
  split_ifs
  · exact ⟨anchor.deliveries, rfl⟩
  · exact deliverTargets_eq calls anchor _

theorem deliverTargets_ok (anchor : Anchor) {targets : List DeliveryTarget}
    (h : ∀ t ∈ targets, t.required = true → calls.delivery t.rolePath = .ok) :
    (deliverTargets calls anchor targets).2 = true := by
  induction targets generalizing anchor with
  | nil => rfl
  | cons t ts ih =>
    have hts := fun anchor => ih anchor (fun t' ht' => h t' (by simp [ht']))
    rw [deliverTargets]
    dsimp only
    by_cases hd : calls.deliveryQuery t.rolePath = true ∧
        (t.rolePath, t.contextID, t.recipient) ∈ anchor.deliveries
    · rw [if_pos hd]
      exact hts _
    · rw [if_neg hd, if_neg (fun hr => hr.1 (h t (by simp) hr.2))]
      exact hts _

theorem deliverJoinerAudienceKeys_ok (anchor : Anchor) (memberRecordID memberDID nodeDID : String)
    (h : a.ownerRoot = true →
      calls.delivery "network/node" = .ok ∧ calls.delivery "network/member/node" = .ok) :
    (deliverJoinerAudienceKeys a anchor memberRecordID memberDID nodeDID calls).2 = true := by
  simp only [deliverJoinerAudienceKeys]
  cases ho : a.ownerRoot with
  | false => rfl
  | true =>
    obtain ⟨hn, hm⟩ := h ho
    apply deliverTargets_ok anchor
    simp only [deliveryTargets]
    split_ifs
    · simp [hm]
    · simp [hn]

/-- The key with the node added to its users. -/
def PreAuthKeyData.markedUsed (key : PreAuthKeyData) (nodeDID : String) : PreAuthKeyData :=
  { key with usedBy := key.usedBy ++ [nodeDID] }

/-- The last stage touches the deliveries and the request's own key. -/
theorem settleRequest_cases (a : Approver) (anchor : Anchor) (req : NodeRequestData)
    (key : PreAuthKeyData) (memberRecordID memberDID : String) (calls : RequestCalls) :
    ∃ ds, (settleRequest a anchor req key memberRecordID memberDID calls).1 =
        { anchor with deliveries := ds } ∨
      req.nodeDID ∉ key.usedBy ∧
      (settleRequest a anchor req key memberRecordID memberDID calls).1 =
        ({ anchor with deliveries := ds }).setKey req.preAuthKeyID (key.markedUsed req.nodeDID) := by
  obtain ⟨ds, hds⟩ := deliverJoinerAudienceKeys_eq a anchor memberRecordID memberDID
    req.nodeDID calls
  refine ⟨ds, ?_⟩
  have hmark : (markPreAuthKeyUsed { anchor with deliveries := ds } req.preAuthKeyID key
      req.nodeDID calls).1 = { anchor with deliveries := ds } ∨
      req.nodeDID ∉ key.usedBy ∧ (markPreAuthKeyUsed { anchor with deliveries := ds }
        req.preAuthKeyID key req.nodeDID calls).1 =
        ({ anchor with deliveries := ds }).setKey req.preAuthKeyID
          (key.markedUsed req.nodeDID) := by
    simp only [markPreAuthKeyUsed]
    by_cases hu : req.nodeDID ∈ key.usedBy
    · rw [if_pos hu]
      exact .inl rfl
    · rw [if_neg hu]
      dsimp only
      by_cases hw : calls.markWrite.carriedOut = true
      · rw [if_pos hw]
        exact .inr ⟨hu, rfl⟩
      · rw [if_neg hw]
        exact .inl rfl
  unfold settleRequest
  dsimp only
  rw [hds]
  split_ifs
  · exact .inl rfl
  · exact hmark
  · exact hmark
  · exact hmark

/-- With the deliveries made and the mark carried out, the key is marked. -/
theorem settleRequest_marks (hu : req.nodeDID ∉ key.usedBy)
    (hd : a.ownerRoot = true →
      calls.delivery "network/node" = .ok ∧ calls.delivery "network/member/node" = .ok)
    (hm : calls.markWrite ≠ .failed) :
    (settleRequest a anchor req key memberRecordID memberDID calls).1.keys req.preAuthKeyID =
      some (key.markedUsed req.nodeDID) := by
  have hdel := deliverJoinerAudienceKeys_ok anchor memberRecordID memberDID req.nodeDID hd
  have hcarried : calls.markWrite.carriedOut = true := by
    cases hw : calls.markWrite with
    | failed => exact absurd hw hm
    | ok => rfl
    | lost => rfl
  have hmark (anchor : Anchor) : (markPreAuthKeyUsed anchor req.preAuthKeyID key req.nodeDID
      calls).1.keys req.preAuthKeyID = some (key.markedUsed req.nodeDID) := by
    simp only [markPreAuthKeyUsed]
    rw [if_neg hu]
    dsimp only
    rw [if_pos hcarried]
    simp [Anchor.setKey, PreAuthKeyData.markedUsed]
  unfold settleRequest
  dsimp only
  rw [hdel]
  simp only [Bool.not_true, Bool.false_eq_true, if_false]
  split_ifs
  · exact hmark _
  · exact hmark _
  · exact hmark _

/-- The rule for what one request leaves: it adds the owner's member record, the node's record and
the used mark, each only where it says so, and nothing else. -/
theorem admitRequest_rule {P : Anchor → Prop} (h0 : P anchor)
    (hmember : WritesMember anchor req calls → ∀ A (m : MemberRecord),
      m.recipient = req.effectiveOwnerDID → P A → P (A.addMember req.preAuthKeyID m))
    (hnode : WritesNode a anchor req calls present → ∀ A (n : NodeRecord),
      n.recipient = req.nodeDID → P A → P (A.addNode req.preAuthKeyID n))
    (hkey : req.nodeDID ∉ key.usedBy → ∀ A, P A →
      P (A.setKey req.preAuthKeyID (key.markedUsed req.nodeDID)))
    (hdeliver : ∀ A ds, P A → P { A with deliveries := ds }) :
    P (admitRequest a anchor req key present calls).1 := by
  have h1 : P (admitMember anchor req key calls).1 := by
    rcases admitMember_cases anchor req key calls with
      he | ⟨hw, id, label, he⟩
    · rwa [he]
    · rw [he]
      exact hmember hw anchor _ rfl h0
  unfold admitRequest
  dsimp only
  rcases hm : admitMember anchor req key calls with ⟨A, _ | memberRecordID⟩
  · rw [hm] at h1
    exact h1
  · rw [hm] at h1
    have hfinds : FindsMember anchor req calls := (admitMember_isSome key).mp (by rw [hm]; rfl)
    dsimp only at h1 ⊢
    generalize (if req.effectiveOwnerDID = "" then req.nodeDID else req.effectiveOwnerDID) =
      memberDID
    have h2 : P (admitNode a A req key present memberRecordID memberDID calls).1 := by
      rcases admitNode_cases a A req key present memberRecordID memberDID calls with
        he | ⟨hw, ip, he⟩
      · rwa [he]
      · rw [he]
        exact hnode ⟨hfinds, hw⟩ A _ rfl h1
    rcases hn : admitNode a A req key present memberRecordID memberDID calls with ⟨B, _ | verdict⟩
    · rw [hn] at h2
      dsimp only at h2 ⊢
      obtain ⟨ds, he | ⟨hu, he⟩⟩ := settleRequest_cases a B req key memberRecordID memberDID calls
      · rw [he]
        exact hdeliver B ds h2
      · rw [he]
        exact hkey hu _ (hdeliver B ds h2)
    · rw [hn] at h2
      exact h2

/-- A request that goes through marks its key. -/
theorem admitRequest_marks (hu : req.nodeDID ∉ key.usedBy) (hf : FindsMember anchor req calls)
    (hg : GoesThrough a req calls present) :
    (admitRequest a anchor req key present calls).1.keys req.preAuthKeyID =
      some (key.markedUsed req.nodeDID) := by
  obtain ⟨memberRecordID, hm⟩ := Option.isSome_iff_exists.mp
    ((admitMember_isSome key).mpr hf)
  have hpair : admitMember anchor req key calls =
      ((admitMember anchor req key calls).1, some memberRecordID) := Prod.ext rfl hm
  unfold admitRequest
  dsimp only
  rw [hpair]
  dsimp only
  generalize (if req.effectiveOwnerDID = "" then req.nodeDID else req.effectiveOwnerDID) = memberDID
  have hn := admitNode_none (admitMember anchor req key calls).1 key memberRecordID memberDID
    hg.address hg.node
  rcases hnode : admitNode a (admitMember anchor req key calls).1 req key present memberRecordID
    memberDID calls with ⟨B, v⟩
  rw [hnode] at hn
  dsimp only at hn
  subst hn
  exact settleRequest_marks hu hg.delivery hg.mark

end Stages

theorem checkRequest_ok {a : Approver} {anchor : Anchor} {req : NodeRequestData}
    {calls : RequestCalls} {key : PreAuthKeyData} {present : Bool}
    (h : checkRequest a anchor req calls = .ok (key, present)) :
    anchor.keys req.preAuthKeyID = some key ∧
    (req.nodeDID ∈ key.usedBy ∨ key.reusable = true ∨ key.usedBy = []) := by
  simp only [checkRequest] at h
  cases hr : readPreAuthKey anchor req.preAuthKeyID calls with
  | none =>
    rw [hr] at h
    cases h
  | some key' =>
    rw [hr] at h
    dsimp only at h
    split_ifs at h with hallow hproof
    cases hn : nodeRecordExists anchor req.nodeDID calls with
    | none =>
      rw [hn] at h
      cases h
    | some present' =>
      rw [hn] at h
      obtain ⟨rfl, -⟩ := Prod.mk.inj (Except.ok.inj h)
      have hkey : anchor.keys req.preAuthKeyID = some key' := by
        simp only [readPreAuthKey] at hr
        split_ifs at hr
        exact hr
      have hallows : preAuthKeyAllows a key' req.nodeDID calls.now = true := by
        by_contra hf
        exact hallow (by simp [hf])
      refine ⟨hkey, ?_⟩
      simp only [preAuthKeyAllows] at hallows
      split_ifs at hallows with _ _ hu
      · exact .inl hu
      · rw [Bool.or_eq_true, List.isEmpty_iff] at hallows
        exact .inr hallows

namespace Anchor

/-- The key is either unused and nobody was admitted under it, or used by one node, and only this
node and its owner were admitted. -/
def SpentOnce (keyID : String) (ownerOf : String → String) (anchor : Anchor) : Prop :=
  ∃ key, anchor.keys keyID = some key ∧ key.reusable = false ∧
    ((key.usedBy = [] ∧ anchor.nodesUnder keyID = [] ∧ anchor.membersUnder keyID = []) ∨
    ∃ d, key.usedBy = [d] ∧ (∀ n ∈ anchor.nodesUnder keyID, n = d) ∧
      ∀ m ∈ anchor.membersUnder keyID, m = ownerOf d)

variable {a : Approver} {anchor : Anchor} {keyID : String} {ownerOf : String → String}
  {req : NodeRequestData} {key : PreAuthKeyData} {present : Bool} {calls : RequestCalls}

theorem SpentOnce.admitsOne (h : anchor.SpentOnce keyID ownerOf) : anchor.AdmitsOne keyID := by
  obtain ⟨key, -, -, ⟨-, hn, hm⟩ | ⟨d, -, hn, hm⟩⟩ := h
  · rw [AdmitsOne, hn, hm]
    simp
  · exact ⟨fun x hx y hy => (hn x hx).trans (hn y hy).symm,
      fun x hx y hy => (hm x hx).trans (hm y hy).symm⟩

/-- A request under another key. -/
theorem admitRequest_other (a : Approver) (anchor : Anchor) (key : PreAuthKeyData)
    (present : Bool) (calls : RequestCalls) (hne : keyID ≠ req.preAuthKeyID) :
    (admitRequest a anchor req key present calls).1.keys keyID = anchor.keys keyID ∧
    (admitRequest a anchor req key present calls).1.nodesUnder keyID = anchor.nodesUnder keyID ∧
    (admitRequest a anchor req key present calls).1.membersUnder keyID =
      anchor.membersUnder keyID := by
  refine admitRequest_rule (P := fun A => A.keys keyID = anchor.keys keyID ∧
    A.nodesUnder keyID = anchor.nodesUnder keyID ∧
    A.membersUnder keyID = anchor.membersUnder keyID) ⟨rfl, rfl, rfl⟩ ?_ ?_ ?_ ?_
  · intro _ A m _ h
    exact ⟨h.1, h.2.1, (Function.update_of_ne hne _ _).trans h.2.2⟩
  · intro _ A n _ h
    exact ⟨h.1, (Function.update_of_ne hne _ _).trans h.2.1, h.2.2⟩
  · intro _ A h
    exact ⟨(Function.update_of_ne hne _ _).trans h.1, h.2⟩
  · intro A ds h
    exact h

/-- Who a request can have admitted under its own key. -/
theorem admitRequest_admitted (a : Approver) (anchor : Anchor) (req : NodeRequestData)
    (key : PreAuthKeyData) (present : Bool) (calls : RequestCalls) :
    (∀ n ∈ (admitRequest a anchor req key present calls).1.nodesUnder req.preAuthKeyID,
      n ∈ anchor.nodesUnder req.preAuthKeyID ∨
        WritesNode a anchor req calls present ∧ n = req.nodeDID) ∧
    (∀ m ∈ (admitRequest a anchor req key present calls).1.membersUnder req.preAuthKeyID,
      m ∈ anchor.membersUnder req.preAuthKeyID ∨
        WritesMember anchor req calls ∧ m = req.effectiveOwnerDID) := by
  refine admitRequest_rule (P := fun A =>
    (∀ n ∈ A.nodesUnder req.preAuthKeyID, n ∈ anchor.nodesUnder req.preAuthKeyID ∨
      WritesNode a anchor req calls present ∧ n = req.nodeDID) ∧
    (∀ m ∈ A.membersUnder req.preAuthKeyID, m ∈ anchor.membersUnder req.preAuthKeyID ∨
      WritesMember anchor req calls ∧ m = req.effectiveOwnerDID))
    ⟨fun _ hn => .inl hn, fun _ hm => .inl hm⟩ ?_ ?_ ?_ ?_
  · intro hw A member hr h
    refine ⟨h.1, ?_⟩
    intro m hm
    simp only [addMember, Function.update_self, List.mem_cons] at hm
    rcases hm with rfl | hm
    · exact .inr ⟨hw, hr⟩
    · exact h.2 m hm
  · intro hw A node hr h
    refine ⟨?_, h.2⟩
    intro n hn
    simp only [addNode, Function.update_self, List.mem_cons] at hn
    rcases hn with rfl | hn
    · exact .inr ⟨hw, hr⟩
    · exact h.1 n hn
  · intro _ A h
    exact h
  · intro A ds h
    exact h

/-- The request's own key stays as it is, or is marked for a new user. -/
theorem admitRequest_key (a : Approver) (present : Bool) (calls : RequestCalls)
    (hkey : anchor.keys req.preAuthKeyID = some key) :
    (admitRequest a anchor req key present calls).1.keys req.preAuthKeyID = some key ∨
    req.nodeDID ∉ key.usedBy ∧
      (admitRequest a anchor req key present calls).1.keys req.preAuthKeyID =
        some (key.markedUsed req.nodeDID) := by
  refine admitRequest_rule (P := fun A => A.keys req.preAuthKeyID = some key ∨
    req.nodeDID ∉ key.usedBy ∧ A.keys req.preAuthKeyID = some (key.markedUsed req.nodeDID))
    (.inl hkey) ?_ ?_ ?_ ?_
  · intro _ A _ _ h
    exact h
  · intro _ A _ _ h
    exact h
  · intro hu A _
    exact .inr ⟨hu, Function.update_self _ _ _⟩
  · intro A ds h
    exact h

/-- A request that writes a record and goes through has its member record by then. -/
theorem findsMember_of_writes
    (hw : WritesMember anchor req calls ∨ WritesNode a anchor req calls present)
    (hg : GoesThrough a req calls present) : FindsMember anchor req calls := by
  rcases hw with hw | hw
  · intro _
    refine ⟨hw.2.2.1, fun _ => ?_⟩
    have hc := hw.2.2.2.2
    cases ho : calls.memberWrite with
    | ok => rfl
    | lost => exact absurd ho hg.member
    | failed => simp [ho, CallOutcome.carriedOut] at hc
  · exact hw.1

/-- A request that writes no record leaves an unused key without any. -/
theorem admitRequest_writes_none (key : PreAuthKeyData)
    (hn : anchor.nodesUnder req.preAuthKeyID = [])
    (hm : anchor.membersUnder req.preAuthKeyID = []) (hwm : ¬ WritesMember anchor req calls)
    (hwn : ¬ WritesNode a anchor req calls present) :
    (admitRequest a anchor req key present calls).1.nodesUnder req.preAuthKeyID = [] ∧
    (admitRequest a anchor req key present calls).1.membersUnder req.preAuthKeyID = [] := by
  obtain ⟨hnodes, hmembers⟩ := admitRequest_admitted a anchor req key present calls
  rw [List.eq_nil_iff_forall_not_mem, List.eq_nil_iff_forall_not_mem]
  constructor
  · intro n hx
    rcases hnodes n hx with h | h
    · simp [hn] at h
    · exact hwn h.1
  · intro m hx
    rcases hmembers m hx with h | h
    · simp [hm] at h
    · exact hwm h.1

/-- The first request under a key: whatever it admits is its own node and owner. -/
theorem SpentOnce.admitRequest_first (hkey : anchor.keys req.preAuthKeyID = some key)
    (hre : key.reusable = false) (hu : key.usedBy = [])
    (hn : anchor.nodesUnder req.preAuthKeyID = [])
    (hm : anchor.membersUnder req.preAuthKeyID = [])
    (hgo : WritesMember anchor req calls ∨ WritesNode a anchor req calls present →
      GoesThrough a req calls present)
    (howner : WritesMember anchor req calls → req.effectiveOwnerDID = ownerOf req.nodeDID) :
    (Mesh.admitRequest a anchor req key present calls).1.SpentOnce req.preAuthKeyID ownerOf := by
  obtain ⟨hnodes, hmembers⟩ := admitRequest_admitted a anchor req key present calls
  have hnotin : req.nodeDID ∉ key.usedBy := by simp [hu]
  have hmarked : (key.markedUsed req.nodeDID).usedBy = [req.nodeDID] := by
    simp [PreAuthKeyData.markedUsed, hu]
  have hnodes' : ∀ n ∈ (Mesh.admitRequest a anchor req key present calls).1.nodesUnder
      req.preAuthKeyID, n = req.nodeDID := by
    intro n hx
    rcases hnodes n hx with h | h
    · rw [hn] at h
      cases h
    · exact h.2
  have hmembers' : ∀ m ∈ (Mesh.admitRequest a anchor req key present calls).1.membersUnder
      req.preAuthKeyID, m = ownerOf req.nodeDID := by
    intro m hx
    rcases hmembers m hx with h | h
    · rw [hm] at h
      cases h
    · exact h.2.trans (howner h.1)
  by_cases hw : WritesMember anchor req calls ∨ WritesNode a anchor req calls present
  · have hmark := admitRequest_marks (a := a) hnotin (findsMember_of_writes hw (hgo hw)) (hgo hw)
    exact ⟨_, hmark, hre, .inr ⟨req.nodeDID, hmarked, hnodes', hmembers'⟩⟩
  · rw [not_or] at hw
    obtain ⟨hnone, hnone'⟩ := admitRequest_writes_none key hn hm hw.1 hw.2
    rcases admitRequest_key a present calls hkey with hk' | ⟨-, hk'⟩
    · exact ⟨key, hk', hre, .inl ⟨hu, hnone, hnone'⟩⟩
    · exact ⟨_, hk', hre, .inr ⟨req.nodeDID, hmarked, hnodes', hmembers'⟩⟩

/-- Only the user of a spent key gets as far as this again. -/
theorem SpentOnce.admitRequest_again (hkey : anchor.keys req.preAuthKeyID = some key)
    (hre : key.reusable = false) (hu : key.usedBy = [req.nodeDID])
    (hn : ∀ n ∈ anchor.nodesUnder req.preAuthKeyID, n = req.nodeDID)
    (hm : ∀ m ∈ anchor.membersUnder req.preAuthKeyID, m = ownerOf req.nodeDID)
    (howner : WritesMember anchor req calls → req.effectiveOwnerDID = ownerOf req.nodeDID) :
    (Mesh.admitRequest a anchor req key present calls).1.SpentOnce req.preAuthKeyID ownerOf := by
  obtain ⟨hnodes, hmembers⟩ := admitRequest_admitted a anchor req key present calls
  rcases admitRequest_key a present calls hkey with hk' | ⟨hnew, -⟩
  · refine ⟨key, hk', hre, .inr ⟨req.nodeDID, hu, ?_, ?_⟩⟩
    · intro n hx
      rcases hnodes n hx with h | h
      · exact hn n h
      · exact h.2
    · intro m hx
      rcases hmembers m hx with h | h
      · exact hm m h
      · rw [h.2, howner h.1]
  · simp [hu] at hnew

theorem SpentOnce.admitRequest (h : anchor.SpentOnce req.preAuthKeyID ownerOf)
    (hcheck : checkRequest a anchor req calls = .ok (key, present))
    (hgo : WritesMember anchor req calls ∨ WritesNode a anchor req calls present →
      GoesThrough a req calls present)
    (howner : WritesMember anchor req calls → req.effectiveOwnerDID = ownerOf req.nodeDID) :
    (admitRequest a anchor req key present calls).1.SpentOnce req.preAuthKeyID ownerOf := by
  obtain ⟨hkey, hallow⟩ := checkRequest_ok hcheck
  obtain ⟨key', hk, hre, hcase⟩ := h
  obtain rfl : key' = key := Option.some.inj (hk.symm.trans hkey)
  rcases hcase with ⟨hu, hn, hm⟩ | ⟨d, hu, hn, hm⟩
  · exact SpentOnce.admitRequest_first hkey hre hu hn hm hgo howner
  · have hd : req.nodeDID = d := by
      rcases hallow with h | h | h
      · simpa [hu] using h
      · rw [hre] at h
        cases h
      · rw [hu] at h
        cases h
    subst hd
    exact SpentOnce.admitRequest_again hkey hre hu hn hm howner

/-- A request changes nothing, or has passed the checks and is admitted. -/
theorem handle_cases (a : Approver) (anchor : Anchor) (request : PendingRequest) :
    handle a anchor request = anchor ∨ ∃ req key present, request.data = some req ∧
      checkRequest a anchor req request.calls = .ok (key, present) ∧
      handle a anchor request = (admitRequest a anchor req key present request.calls).1 := by
  simp only [Anchor.handle, approveRequest]
  cases hdata : request.data with
  | none => exact .inl rfl
  | some req =>
    dsimp only
    cases hcheck : checkRequest a anchor req request.calls with
    | error verdict => exact .inl rfl
    | ok p => exact .inr ⟨req, p.1, p.2, rfl, hcheck, rfl⟩

theorem SpentOnce.handle {request : PendingRequest} (h : anchor.SpentOnce keyID ownerOf)
    (hs : SpendsKey a keyID ownerOf anchor request) :
    (handle a anchor request).SpentOnce keyID ownerOf := by
  obtain hsame | ⟨req, key, present, hdata, hcheck, hadmitted⟩ := handle_cases a anchor request
  · rw [hsame]
    exact h
  rw [hadmitted]
  by_cases hk : req.preAuthKeyID = keyID
  · obtain ⟨hgo, howner⟩ := hs req key present hdata hk hcheck
    subst hk
    exact h.admitRequest hcheck hgo howner
  · obtain ⟨hkeys, hn, hm⟩ := admitRequest_other a anchor key present request.calls
      (Ne.symm hk)
    obtain ⟨key', hrest⟩ := h
    refine ⟨key', ?_⟩
    rw [← hkeys, ← hn, ← hm] at hrest
    exact hrest

/-- A single-use key admits one node and one owner along every sequence of passes whose requests
under the key go through once they have written a record, and whose member records are for the
one owner of their node. -/
theorem singleUse_admitsOne {key : PreAuthKeyData} (hkey : anchor.keys keyID = some key)
    (hre : key.reusable = false) (hu : key.usedBy = []) (hn : anchor.nodesUnder keyID = [])
    (hm : anchor.membersUnder keyID = []) {passes : List (List PendingRequest)}
    (hs : Along (handle a) (SpendsKey a keyID ownerOf) anchor passes.flatten) (k : Nat) :
    (stateAt (pass a) anchor passes k).AdmitsOne keyID := by
  have hprefix : Along (handle a) (SpendsKey a keyID ownerOf) anchor (passes.take k).flatten := by
    rw [← List.take_append_drop k passes, List.flatten_append] at hs
    exact (along_append.mp hs).1
  have h := along_history (P := fun _ anchor => SpentOnce keyID ownerOf anchor)
    ⟨key, hkey, hre, .inl ⟨hu, hn, hm⟩⟩ (fun _ _ hr ih => ih.handle hr) _ hprefix
  rw [stateAt, passes_eq_exec]
  exact h.admitsOne

/-- An approver of a network, with a keyed check in place of the HMAC. -/
def homeApprover : Approver where
  networkRecordID := "bafy-network"
  ownerRoot := true
  verifyProof := fun secret network node proof => proof == secret ++ "/" ++ network ++ "/" ++ node
  verifyNodeJoinProof := fun _ _ _ _ _ => false
  parseTime := fun _ => none
  allocateMeshIP := fun _ => some "10.200.0.2"

/-- An anchor that has handed out one single-use invite. -/
def homeAnchor : Anchor where
  keys := fun id => if id = "bafy-token" then some { key := "secret" } else none

/-- What a holder of the invite secret sends for a node, with or without an owner. -/
def inviteRequest (nodeDID ownerDID : String) (calls : RequestCalls) : PendingRequest where
  data := some { nodeDID, ownerDID, preAuthKeyID := "bafy-token",
                 preAuthProof := "secret/bafy-network/" ++ nodeDID }
  calls := calls

theorem inviteRequest_spendsKey (nodeDID : String) (now : Time) (anchor : Anchor) :
    SpendsKey homeApprover "bafy-token" id anchor
      (inviteRequest nodeDID "" { now := now }) := by
  intro req key present hdata _ _
  obtain rfl := Option.some.inj hdata
  refine ⟨fun _ => ⟨by simp [inviteRequest], fun _ => rfl, fun _ => rfl, fun _ => ⟨rfl, rfl⟩,
    by simp [inviteRequest]⟩, ?_⟩
  intro hw
  exact absurd rfl hw.2.1

/-- Two holders of one invite, with every call answered: only the first is admitted. -/
theorem singleUse_admitsOne_two :
    (homeAnchor.keys "bafy-token").map (·.reusable) = some false ∧
    (stateAt (pass homeApprover) homeAnchor
      [[inviteRequest "did:jwk:alice" "" { now := 1 }],
        [inviteRequest "did:jwk:bob" "" { now := 2 }]] 2).AdmitsOne "bafy-token" := by
  refine ⟨rfl, singleUse_admitsOne rfl rfl rfl rfl rfl
    (?_ : Along _ (SpendsKey _ _ id) _ _) 2⟩
  exact along_cons.mpr ⟨inviteRequest_spendsKey _ _ _,
    along_cons.mpr ⟨inviteRequest_spendsKey _ _ _, along_nil⟩⟩

/-- A single-use invite that admits two. First the key delivery to one joiner fails, so that the
key stays unspent, and the next holder is admitted too. Then, with every call answered, the node
the key was spent on comes back for a second owner. -/
theorem singleUse_admits_two :
    (homeAnchor.keys "bafy-token").map (·.reusable) = some false ∧
    ¬ (exec (pass homeApprover) homeAnchor
      [[inviteRequest "did:jwk:alice" "" { now := 1, delivery := fun _ => .failed }],
        [inviteRequest "did:jwk:bob" "" { now := 2 }]]).AdmitsOne "bafy-token" ∧
    ¬ (exec (pass homeApprover) homeAnchor
      [[inviteRequest "did:jwk:alice" "did:dht:carol" { now := 1, memberRecordID := "bafy-m1" }],
        [inviteRequest "did:jwk:alice" "did:dht:dave"
          { now := 2, memberRecordID := "bafy-m2" }]]).AdmitsOne "bafy-token" := by
  decide

end Anchor

end Meshd.Mesh

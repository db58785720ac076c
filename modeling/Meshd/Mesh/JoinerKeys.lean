import Meshd.Mesh.MeshProtocol
import Meshd.Mesh.SingleUse

namespace Meshd.Mesh

open Meshd.Framework Meshd.Dwn.Crypto

def readProtocolRole (anchorDID selfNodeDID memberRecordID : String) : String :=
  if anchorDID = selfNodeDID then ""
  else if memberRecordID ≠ "" then "network/member"
  else "network/node"

/-- The parent contexts of the records of a network. -/
def InNetwork (networkID parent : String) : Prop :=
  parent = networkID ∨ ∃ rest, parent = networkID ++ "/" ++ rest

/-- Whatever the audience keys are, a record at the path is wrapped to the current key of the role
and context. -/
def WrapsTo (c : Primitives) (installed : Json) (protocolPath parent rolePath contextID : String) :
    Prop :=
  ∀ audiences inputs, buildWriteEncryption c installed protocolPath parent audiences = .ok inputs →
    ∃ pub keyID, audiences MeshProtocol.meshProtocolURI rolePath contextID = .ok (pub, keyID) ∧
      { publicKey := pub, derivationScheme := derivationSchemeRoleAudience,
        protocol := MeshProtocol.meshProtocolURI, rolePath := rolePath } ∈ inputs

/-- A node that presents the role has a key for every encrypted type the role may read. -/
def ReadsNetwork (c : Primitives) (installed : Json) (networkID role nodeDID : String)
    (deliveries : List (String × String × String)) : Prop :=
  ∀ path ruleSet, TypePath path → descend MeshProtocol.ruleSets path = some ruleSet →
    MeshProtocol.encrypted path = true → role ∈ readingRoles ruleSet →
    ∃ rolePath contextID, (rolePath, contextID, nodeDID) ∈ deliveries ∧
      ∀ parent, InNetwork networkID parent →
        WrapsTo c installed ("/".intercalate path) parent rolePath contextID

section Writes

variable {c : Primitives} {root : Bytes} {installed : Json} {networkID : String}

/-- A write at a path of the installed definition: the owner's entry, and one for each role that
reads the type. -/
theorem buildWriteEncryption_installed
    (hinst : injectEncryptionDirectives c (.obj MeshProtocol.definition) root = .ok installed)
    {path : List String} {ruleSet : List (String × Json)} (hp : TypePath path)
    (h : descend MeshProtocol.ruleSets path = some ruleSet) :
    ∃ ownerPub, ∀ parent audiences,
      buildWriteEncryption c installed ("/".intercalate path) parent audiences =
        (audienceInputs c MeshProtocol.meshProtocolURI parent audiences (readingRoles ruleSet)).map
          ({ publicKey := ownerPub, derivationScheme := derivationSchemeProtocolPath } :: ·) := by
  obtain ⟨output, published, hi⟩ := MeshProtocol.exists_injected_definition c root
  obtain rfl := Except.ok.inj (hinst.symm.trans hi.output_eq)
  have huri : Json.field "protocol" output = some (.str MeshProtocol.meshProtocolURI) :=
    hi.kept _ (by decide) (by decide)
  obtain ⟨injected, hinj, hafter⟩ := descend_injected hi.walked hp h
  have hpath := MeshProtocol.wellNamed_ruleSets.names hp.2 h
  set pub := c.x25519Base
    (path.foldl c.hkdf (protocolLevelKey c root MeshProtocol.meshProtocolURI))
  have hlen : pub.length = 32 := c.length_x25519Base _ (length_foldl_hkdf hp.1 _)
  have hrule : keyRuleSet pub ruleSet injected =
      Json.setField "$keyAgreement" (keyAgreementDirective pub) injected :=
    if_neg (by simp [MeshProtocol.field_ref hp h])
  have hkey : keyAgreementPublicKey (keyRuleSet pub ruleSet injected) = .ok pub :=
    keyAgreementPublicKey_keyed hlen (by rw [hrule, Json.field_setField_self])
  have hroles : readingRoles (keyRuleSet pub ruleSet injected) = readingRoles ruleSet := by
    rw [readingRoles, readingRoles, hrule, Json.field_setField_of_ne (by decide),
      field_injected_directive hinj (by decide)]
  have hne : "/".intercalate path ≠ "" := intercalate_ne_empty hp.1 hpath
  refine ⟨pub, fun parent audiences => ?_⟩
  rw [buildWriteEncryption, if_neg hne, unmarshalMap_of_small hi.small, ok_bind,
    protocolOf_eq huri (by decide), ok_bind, structureOf_eq hi.ruleSets_eq, ok_bind, ruleSetAtPath,
    splitProtocolPath_intercalate hp.1 hpath, walkRuleSets_ok hafter, ok_bind, hkey, mapError_ok,
    ok_bind, hroles]
  rfl

/-- The audience keys of this network and of all others. -/
def twoAudiences (c : Primitives) (networkID : String) : AudienceSource := fun _ _ contextID =>
  let pub := List.replicate 32 (if contextID = networkID then 0 else 1)
  .ok (pub, thumbprintForPublicKey c pub)

theorem audienceInput_twoAudiences {role parent contextID : String}
    (hctx : roleAudienceContextID role parent = .ok contextID) :
    audienceInput c MeshProtocol.meshProtocolURI parent (twoAudiences c networkID) role =
      .ok { publicKey := List.replicate 32 (if contextID = networkID then 0 else 1),
            derivationScheme := derivationSchemeRoleAudience,
            protocol := MeshProtocol.meshProtocolURI, rolePath := role } := by
  rw [audienceInput, hctx, ok_bind, twoAudiences, mapError_ok, ok_bind]
  simp [x25519KeySize]

/-- The tuples that every record of an encrypted type in the network is wrapped to. -/
theorem wrapsTo_iff
    (hinst : injectEncryptionDirectives c (.obj MeshProtocol.definition) root = .ok installed)
    (hne : networkID ≠ "") (hslash : '/' ∉ networkID.toList)
    {path : List String} {ruleSet : List (String × Json)} (hp : TypePath path)
    (h : descend MeshProtocol.ruleSets path = some ruleSet)
    (hroles : readingRoles ruleSet = ["network/member", "network/node"])
    {parent : String} (hpar : InNetwork networkID parent) {rolePath contextID : String} :
    WrapsTo c installed ("/".intercalate path) parent rolePath contextID ↔
      (rolePath = "network/member" ∨ rolePath = "network/node") ∧ contextID = networkID := by
  obtain ⟨ownerPub, hbuild⟩ := buildWriteEncryption_installed hinst hp h
  have hctx : ∀ role ∈ readingRoles ruleSet,
      roleAudienceContextID role parent = .ok networkID := by
    intro role hrole
    rw [hroles] at hrole
    refine roleAudienceContextID_nested ?_ hne hslash hpar
    simp only [List.mem_cons, List.not_mem_nil, or_false] at hrole
    obtain rfl | rfl := hrole
    · decide
    · decide
  have hmem : rolePath ∈ readingRoles ruleSet ↔
      rolePath = "network/member" ∨ rolePath = "network/node" := by
    simp [hroles]
  constructor
  · intro hw
    -- keys that tell this network's context from every other
    have hok : ∀ role ∈ readingRoles ruleSet, ∃ input, audienceInput c
        MeshProtocol.meshProtocolURI parent (twoAudiences c networkID) role = .ok input :=
      fun role hrole => ⟨_, audienceInput_twoAudiences (hctx role hrole)⟩
    obtain ⟨inputs, hinputs⟩ := audienceInputs_ok hok
    obtain ⟨pub, keyID, hcur, hin⟩ := hw (twoAudiences c networkID) _
      (by rw [hbuild, hinputs, ok_map])
    obtain hown | hin := List.mem_cons.mp hin
    · simp [derivationSchemeRoleAudience, derivationSchemeProtocolPath] at hown
    obtain ⟨role, hrole, hinput⟩ := (mem_audienceInputs hinputs _).mp hin
    rw [audienceInput_twoAudiences (hctx role hrole), if_pos rfl] at hinput
    simp only [Except.ok.injEq, KeyEncryptionInput.mk.injEq, true_and] at hinput
    obtain ⟨hpub, rfl⟩ := hinput
    refine ⟨hmem.mp hrole, ?_⟩
    by_contra hother
    simp only [twoAudiences, if_neg hother, Except.ok.injEq, Prod.mk.injEq] at hcur
    rw [← hcur.1] at hpub
    exact absurd hpub (by decide)
  · rintro ⟨hrole, rfl⟩ audiences inputs hok
    rw [hbuild] at hok
    obtain ⟨rest, hrest, rfl⟩ := map_eq_ok.mp hok
    obtain ⟨input, hinput⟩ := audienceInput_of_mem hrest (hmem.mpr hrole)
    obtain ⟨ctx, pub, keyID, hctx', hcur, rfl⟩ := audienceInput_eq_ok hinput
    obtain rfl := Except.ok.inj ((hctx rolePath (hmem.mpr hrole)).symm.trans hctx')
    exact ⟨pub, keyID, hcur, List.mem_cons_of_mem _
      ((mem_audienceInputs hrest _).mpr ⟨rolePath, hmem.mpr hrole, hinput⟩)⟩

/-- The deliveries a node needs: one of the two roles in the network's own context. -/
theorem readsNetwork_iff
    (hinst : injectEncryptionDirectives c (.obj MeshProtocol.definition) root = .ok installed)
    (hne : networkID ≠ "") (hslash : '/' ∉ networkID.toList)
    (anchorDID nodeDID memberRecordID : String) (deliveries : List (String × String × String)) :
    ReadsNetwork c installed networkID (readProtocolRole anchorDID nodeDID memberRecordID) nodeDID
        deliveries ↔
      anchorDID = nodeDID ∨ ("network/member", networkID, nodeDID) ∈ deliveries ∨
        ("network/node", networkID, nodeDID) ∈ deliveries := by
  constructor
  · intro h
    by_cases hanchor : anchorDID = nodeDID
    · exact .inl hanchor
    refine .inr ?_
    obtain ⟨rolePath, contextID, hmem, hwraps⟩ := h ["network", "node"] _ ⟨by decide, by decide⟩ rfl
      (by decide) (by
        rw [readProtocolRole, if_neg hanchor]
        split_ifs
        · decide
        · decide)
    obtain ⟨rfl | rfl, rfl⟩ := (wrapsTo_iff hinst hne hslash ⟨by decide, by decide⟩ rfl (by decide)
      (.inl rfl)).mp (hwraps networkID (.inl rfl))
    · exact .inl hmem
    · exact .inr hmem
  · intro h path ruleSet hp hrule henc hrole
    obtain hnone | hroles := MeshProtocol.readingRoles_of_encrypted hp hrule henc
    · rw [hnone] at hrole
      cases hrole
    have hwraps (rolePath : String)
        (hr : rolePath = "network/member" ∨ rolePath = "network/node") (parent : String)
        (hpar : InNetwork networkID parent) :
        WrapsTo c installed ("/".intercalate path) parent rolePath networkID :=
      (wrapsTo_iff hinst hne hslash hp hrule hroles hpar).mpr ⟨hr, rfl⟩
    obtain hanchor | hmember | hnode := h
    · rw [readProtocolRole, if_pos hanchor, hroles] at hrole
      simp at hrole
    · exact ⟨_, _, hmember, hwraps _ (.inl rfl)⟩
    · exact ⟨_, _, hnode, hwraps _ (.inr rfl)⟩

end Writes

section Deliveries

variable {a : Approver} {anchor : Anchor} {req : NodeRequestData} {key : PreAuthKeyData}
  {calls : RequestCalls} {present : Bool} {memberRecordID memberDID nodeDID : String}

/-- The tuple a delivery record is found by. -/
def DeliveryTarget.record (t : DeliveryTarget) : String × String × String :=
  (t.rolePath, t.contextID, t.recipient)

theorem mem_deliverTargets (calls : RequestCalls) (anchor : Anchor) (targets : List DeliveryTarget)
    {d : String × String × String} (h : d ∈ (deliverTargets calls anchor targets).1.deliveries) :
    d ∈ anchor.deliveries ∨ ∃ t ∈ targets, d = t.record := by
  induction targets generalizing anchor with
  | nil => exact .inl h
  | cons t ts ih =>
    have hlater (anchor' : Anchor) (hd : d ∈ (deliverTargets calls anchor' ts).1.deliveries)
        (hsub : ∀ e ∈ anchor'.deliveries, e ∈ anchor.deliveries ∨ e = t.record) :
        d ∈ anchor.deliveries ∨ ∃ t' ∈ t :: ts, d = t'.record := by
      obtain hold | ⟨t', ht', rfl⟩ := ih anchor' hd
      · exact (hsub d hold).imp_right fun he => ⟨t, List.mem_cons_self, he⟩
      · exact .inr ⟨t', List.mem_cons_of_mem _ ht', rfl⟩
    have hmade (e : String × String × String) (he : e ∈ t.record :: anchor.deliveries) :
        e ∈ anchor.deliveries ∨ e = t.record := (List.mem_cons.mp he).symm
    rw [deliverTargets] at h
    dsimp only at h
    split_ifs at h
    · exact hlater anchor h fun e he => .inl he
    · exact (hmade d h).imp_right fun he => ⟨t, List.mem_cons_self, he⟩
    · exact .inl h
    · exact hlater _ h hmade
    · exact hlater anchor h fun e he => .inl he

theorem deliverTargets_subset (calls : RequestCalls) (anchor : Anchor)
    (targets : List DeliveryTarget) :
    anchor.deliveries ⊆ (deliverTargets calls anchor targets).1.deliveries := by
  induction targets generalizing anchor with
  | nil => exact List.Subset.refl _
  | cons t ts ih =>
    rw [deliverTargets]
    dsimp only
    split_ifs
    · exact ih anchor
    · exact List.subset_cons_self _ _
    · exact List.Subset.refl _
    · exact List.Subset.trans (List.subset_cons_self _ _) (ih { anchor with deliveries := _ })
    · exact ih anchor

/-- A loop that goes through has made every required delivery. -/
theorem deliverTargets_required (anchor : Anchor) {targets : List DeliveryTarget}
    (h : (deliverTargets calls anchor targets).2 = true) {t : DeliveryTarget} (ht : t ∈ targets)
    (hreq : t.required = true) :
    t.record ∈ (deliverTargets calls anchor targets).1.deliveries := by
  induction targets generalizing anchor with
  | nil => cases ht
  | cons first rest ih =>
    rw [deliverTargets] at h ⊢
    dsimp only at h ⊢
    by_cases hseen : calls.deliveryQuery first.rolePath = true ∧
        (first.rolePath, first.contextID, first.recipient) ∈ anchor.deliveries
    · rw [if_pos hseen] at h ⊢
      obtain rfl | hrest := List.mem_cons.mp ht
      · exact deliverTargets_subset calls anchor rest hseen.2
      · exact ih anchor h hrest
    · rw [if_neg hseen] at h ⊢
      by_cases hstop : calls.delivery first.rolePath ≠ .ok ∧ first.required = true
      · rw [if_pos hstop] at h
        cases h
      · rw [if_neg hstop] at h ⊢
        obtain rfl | hrest := List.mem_cons.mp ht
        · have hok : calls.delivery t.rolePath = .ok := by
            by_contra hne
            exact hstop ⟨hne, hreq⟩
          apply deliverTargets_subset
          rw [if_pos (by simp [hok, CallOutcome.carriedOut])]
          exact List.mem_cons_self
        · exact ih _ h hrest

theorem checkRequest_nodeDID (h : checkRequest a anchor req calls = .ok (key, present)) :
    req.nodeDID ≠ "" := by
  simp only [checkRequest] at h
  split at h
  · cases h
  · split_ifs at h with hallow
    intro hempty
    apply hallow
    simp [preAuthKeyAllows, hempty]

theorem NodeRequestData.effectiveOwnerDID_ne_empty (req : NodeRequestData) (h : req.nodeDID ≠ "") :
    req.effectiveOwnerDID ≠ "" := by
  rw [NodeRequestData.effectiveOwnerDID]
  split_ifs with ho hm
  · exact ho
  · exact hm
  · exact h

/-- A request has no member record exactly where its owner is the node. -/
theorem admitMember_empty {A : Anchor} (hids : ∀ m ∈ anchor.members, m.id ≠ "")
    (hid : calls.memberRecordID ≠ "") (hnode : req.nodeDID ≠ "")
    (h : admitMember anchor req key calls = (A, some memberRecordID)) :
    memberRecordID = "" ↔ req.effectiveOwnerDID = req.nodeDID := by
  have howner := req.effectiveOwnerDID_ne_empty hnode
  obtain ⟨hself, hempty⟩ | ⟨hself, hfound⟩ := admitMember_found h
  · exact ⟨fun _ => hself.resolve_left howner, fun _ => hempty⟩
  · refine ⟨fun hempty => absurd hempty ?_, fun hs => absurd hs hself⟩
    obtain ⟨m, hm, -, hmember⟩ | ⟨hwritten, -⟩ := hfound
    · rw [← hmember]
      exact hids m hm
    · rw [hwritten]
      exact hid

theorem checkRequest_not_approved {verdict : Verdict}
    (h : checkRequest a anchor req calls = .error verdict) : verdict ≠ .approved := by
  rintro rfl
  simp only [checkRequest] at h
  split at h
  · cases h
  · split_ifs at h
    · cases h
    · cases h
    · split at h
      · cases h
      · cases h

theorem admitMember_deliveries (anchor : Anchor) (req : NodeRequestData) (key : PreAuthKeyData)
    (calls : RequestCalls) :
    (admitMember anchor req key calls).1.deliveries = anchor.deliveries := by
  obtain he | ⟨-, id, label, he⟩ := admitMember_cases anchor req key calls
  · rw [he]
  · rw [he]
    rfl

/-- The node stage delivers nothing, and where it ends a request it does not approve it. -/
theorem admitNode_deliveries (a : Approver) (anchor : Anchor) (req : NodeRequestData)
    (key : PreAuthKeyData) (present : Bool) (memberRecordID memberDID : String)
    (calls : RequestCalls) :
    (admitNode a anchor req key present memberRecordID memberDID calls).1.deliveries =
      anchor.deliveries ∧
    (admitNode a anchor req key present memberRecordID memberDID calls).2 ≠ some .approved := by
  constructor
  · obtain he | ⟨-, ip, he⟩ := admitNode_cases a anchor req key present memberRecordID memberDID calls
    · rw [he]
    · rw [he]
      rfl
  · rw [admitNode]
    split_ifs
    · simp
    · split
      · simp
      · dsimp only
        split_ifs
        · simp
        · simp

/-- An approved request has gone through its deliveries, and the rest of it makes none. -/
theorem settleRequest_approved (hroot : a.ownerRoot = true)
    (h : (settleRequest a anchor req key memberRecordID memberDID calls).2 = .approved) :
    (deliverTargets calls anchor (deliveryTargets a memberRecordID memberDID req.nodeDID)).2 =
      true ∧
    (settleRequest a anchor req key memberRecordID memberDID calls).1.deliveries =
      (deliverTargets calls anchor
        (deliveryTargets a memberRecordID memberDID req.nodeDID)).1.deliveries := by
  have hjoin : deliverJoinerAudienceKeys a anchor memberRecordID memberDID req.nodeDID calls =
      deliverTargets calls anchor (deliveryTargets a memberRecordID memberDID req.nodeDID) := by
    simp [deliverJoinerAudienceKeys, hroot]
  have hmark (anchor' : Anchor) : (markPreAuthKeyUsed anchor' req.preAuthKeyID key req.nodeDID
      calls).1.deliveries = anchor'.deliveries := by
    simp only [markPreAuthKeyUsed]
    split_ifs
    · rfl
    · rfl
    · rfl
  simp only [settleRequest, hjoin] at h ⊢
  split_ifs at h ⊢ with hd
  exact ⟨by simpa using hd, hmark _⟩

/-- The deliveries of an approved request are those its targets get. -/
theorem approveRequest_approved {request : PendingRequest} (hdata : request.data = some req)
    (hroot : a.ownerRoot = true) (hids : ∀ m ∈ anchor.members, m.id ≠ "")
    (hid : request.calls.memberRecordID ≠ "")
    (h : (approveRequest a anchor request).2 = .approved) :
    ∃ memberRecordID memberDID start,
      (memberRecordID = "" ↔ req.effectiveOwnerDID = req.nodeDID) ∧
      (memberRecordID ≠ "" → memberDID ≠ req.nodeDID) ∧
      start.deliveries = anchor.deliveries ∧
      (deliverTargets request.calls start
        (deliveryTargets a memberRecordID memberDID req.nodeDID)).2 = true ∧
      (approveRequest a anchor request).1.deliveries = (deliverTargets request.calls start
        (deliveryTargets a memberRecordID memberDID req.nodeDID)).1.deliveries := by
  simp only [approveRequest, hdata] at h ⊢
  cases hc : checkRequest a anchor req request.calls with
  | error verdict =>
    rw [hc] at h
    exact absurd h (checkRequest_not_approved hc)
  | ok found =>
    obtain ⟨key, present⟩ := found
    have hnode := checkRequest_nodeDID hc
    have howner := req.effectiveOwnerDID_ne_empty hnode
    have hdel := admitMember_deliveries anchor req key request.calls
    rw [hc] at h
    simp only [admitRequest, if_neg howner] at h ⊢
    cases hm : admitMember anchor req key request.calls with
    | mk anchor₁ found =>
      rw [hm] at h hdel
      cases found with
      | none => cases h
      | some memberRecordID =>
        have hempty := admitMember_empty hids hid hnode hm
        have hnodeDel := admitNode_deliveries a anchor₁ req key present memberRecordID
          req.effectiveOwnerDID request.calls
        dsimp only at h ⊢
        cases hn : admitNode a anchor₁ req key present memberRecordID req.effectiveOwnerDID
            request.calls with
        | mk anchor₂ verdict =>
          rw [hn] at h hnodeDel
          cases verdict with
          | some verdict => exact absurd (congrArg some h) hnodeDel.2
          | none =>
            obtain ⟨hthrough, heq⟩ := settleRequest_approved hroot h
            exact ⟨memberRecordID, req.effectiveOwnerDID, anchor₂, hempty,
              fun hne hself => hne (hempty.mpr hself), hnodeDel.1.trans hdel, hthrough, heq⟩

/-- The deliveries that let the node read the network are there after an approval exactly where they
were there before, or the node is its own owner. -/
theorem approved_deliveries {request : PendingRequest} (hdata : request.data = some req)
    (hroot : a.ownerRoot = true) (hids : ∀ m ∈ anchor.members, m.id ≠ "")
    (hid : request.calls.memberRecordID ≠ "")
    (h : (approveRequest a anchor request).2 = .approved) :
    (("network/member", a.networkRecordID, req.nodeDID) ∈
        (approveRequest a anchor request).1.deliveries ∨
      ("network/node", a.networkRecordID, req.nodeDID) ∈
        (approveRequest a anchor request).1.deliveries) ↔
    req.effectiveOwnerDID = req.nodeDID ∨
      ("network/member", a.networkRecordID, req.nodeDID) ∈ anchor.deliveries ∨
      ("network/node", a.networkRecordID, req.nodeDID) ∈ anchor.deliveries := by
  obtain ⟨memberRecordID, memberDID, start, hempty, hother, hstart, hthrough, heq⟩ :=
    approveRequest_approved hdata hroot hids hid h
  rw [heq, ← hstart]
  constructor
  · intro hafter
    by_cases hself : req.effectiveOwnerDID = req.nodeDID
    · exact .inl hself
    have hm : memberRecordID ≠ "" := fun he => hself (hempty.mp he)
    -- under a member the node only gets the key of its own records' role
    have hnew (rolePath : String) (hrole : rolePath ≠ "network/member/node") :
        ¬ ∃ t ∈ deliveryTargets a memberRecordID memberDID req.nodeDID,
          (rolePath, a.networkRecordID, req.nodeDID) = t.record := by
      rw [deliveryTargets, if_pos hm]
      simp [DeliveryTarget.record, hrole, Ne.symm (hother hm)]
    refine .inr (hafter.imp (fun hd => ?_) fun hd => ?_)
    · exact (mem_deliverTargets _ _ _ hd).resolve_right (hnew _ (by decide))
    · exact (mem_deliverTargets _ _ _ hd).resolve_right (hnew _ (by decide))
  · rintro (hself | hd | hd)
    · have hm : memberRecordID = "" := hempty.mpr hself
      refine .inr (deliverTargets_required start hthrough
        (t := ⟨"network/node", req.nodeDID, a.networkRecordID, true⟩) ?_ rfl)
      simp [deliveryTargets, hm]
    · exact .inl (deliverTargets_subset _ _ _ hd)
    · exact .inr (deliverTargets_subset _ _ _ hd)

end Deliveries

/-- An approved joiner can read what its role may read exactly where it is the anchor or its own
owner, or had the key of one of the two reading roles before. -/
theorem approved_readsNetwork_iff {c : Primitives} {root : Bytes} {installed : Json}
    (hinst : injectEncryptionDirectives c (.obj MeshProtocol.definition) root = .ok installed)
    {a : Approver} {anchor : Anchor} {request : PendingRequest} {req : NodeRequestData}
    (hnetwork : a.networkRecordID ≠ "") (hslash : '/' ∉ a.networkRecordID.toList)
    (hroot : a.ownerRoot = true) (hids : ∀ m ∈ anchor.members, m.id ≠ "")
    (hid : request.calls.memberRecordID ≠ "") (hdata : request.data = some req)
    (happroved : (approveRequest a anchor request).2 = .approved)
    (anchorDID memberRecordID : String) :
    ReadsNetwork c installed a.networkRecordID
        (readProtocolRole anchorDID req.nodeDID memberRecordID) req.nodeDID
        (approveRequest a anchor request).1.deliveries ↔
      anchorDID = req.nodeDID ∨ req.effectiveOwnerDID = req.nodeDID ∨
        ("network/member", a.networkRecordID, req.nodeDID) ∈ anchor.deliveries ∨
        ("network/node", a.networkRecordID, req.nodeDID) ∈ anchor.deliveries := by
  rw [readsNetwork_iff hinst hnetwork hslash,
    approved_deliveries hdata hroot hids hid happroved]

/-- The definition the owner of the home network installs. -/
theorem exists_installed (c : Primitives) (root : Bytes) : ∃ installed,
    injectEncryptionDirectives c (.obj MeshProtocol.definition) root = .ok installed := by
  obtain ⟨output, published, hi⟩ := MeshProtocol.exists_injected_definition c root
  exact ⟨.obj output, hi.output_eq⟩

/-- A node joins the home network, for itself or for an owner. -/
def aliceJoins (ownerDID : String) : PendingRequest :=
  Anchor.inviteRequest "did:jwk:alice" ownerDID { now := 1, memberRecordID := "bafy-m1" }

/-- A node that joins for itself can read the network. -/
theorem approved_self_readsNetwork : ∃ installed,
    ReadsNetwork .transparent installed "bafy-network" "network/node" "did:jwk:alice"
      (approveRequest Anchor.homeApprover Anchor.homeAnchor (aliceJoins "")).1.deliveries := by
  obtain ⟨installed, hinst⟩ := exists_installed .transparent (List.replicate 32 7)
  have happroved :
      (approveRequest Anchor.homeApprover Anchor.homeAnchor (aliceJoins "")).2 = .approved := by
    decide
  obtain ⟨req, hdata, hnode, howner⟩ : ∃ req, (aliceJoins "").data = some req ∧
      req.nodeDID = "did:jwk:alice" ∧ req.effectiveOwnerDID = "did:jwk:alice" :=
    ⟨_, rfl, by decide, by decide⟩
  have hreads := (approved_readsNetwork_iff hinst (by decide) (by decide) rfl
    (by simp [Anchor.homeAnchor]) (by decide) hdata happroved "did:dht:owner" "").mpr
    (.inr (.inl (howner.trans hnode.symm)))
  rw [hnode] at hreads
  exact ⟨installed, hreads⟩

/-- A node that joins for an owner gets the key of `network/member/node`, to which no record is
wrapped. -/
theorem approved_for_owner_reads_nothing :
    (approveRequest Anchor.homeApprover Anchor.homeAnchor (aliceJoins "did:dht:carol")).2 =
      .approved ∧
    ∃ installed,
      injectEncryptionDirectives .transparent (.obj MeshProtocol.definition) (List.replicate 32 7) =
        .ok installed ∧
      ¬ ReadsNetwork .transparent installed "bafy-network"
        (readProtocolRole "did:dht:owner" "did:jwk:alice" "bafy-m1") "did:jwk:alice"
        (approveRequest Anchor.homeApprover Anchor.homeAnchor
          (aliceJoins "did:dht:carol")).1.deliveries := by
  obtain ⟨installed, hinst⟩ := exists_installed .transparent (List.replicate 32 7)
  refine ⟨by decide, installed, hinst, ?_⟩
  rw [readsNetwork_iff hinst (by decide) (by decide)]
  decide

end Meshd.Mesh

import Meshd.Framework.Run
import Meshd.Framework.Go

namespace Meshd.Mesh

open Meshd.Framework

/-- The payload of a `network/preAuthKey` record. -/
structure PreAuthKeyData where
  key : String
  createdAt : String := ""
  expiresAt : String := ""
  reusable : Bool := false
  ephemeral : Bool := false
  label : String := ""
  usedBy : List String := []

/-- The fields of a `network/nodeRequest` payload that the approver reads. -/
structure NodeRequestData where
  nodeDID : String
  memberDID : String := ""
  ownerDID : String := ""
  delegateDID : String := ""
  nodeProof : String := ""
  label : String := ""
  preAuthKeyID : String := ""
  preAuthProof : String := ""

def NodeRequestData.effectiveOwnerDID (r : NodeRequestData) : String :=
  if r.ownerDID ≠ "" then r.ownerDID
  else if r.memberDID ≠ "" then r.memberDID
  else r.nodeDID

/-- A `network/member` record. -/
structure MemberRecord where
  id : String
  recipient : String
  label : String

/-- A node record: under a member, or `network/node` when `memberRecordID` is empty. -/
structure NodeRecord where
  recipient : String
  memberRecordID : String
  meshIP : String
  label : String
  ownerDID : String
  delegateDID : String

/-- What an `$encryption/delivery` record is found by. -/
structure DeliveryTarget where
  rolePath : String
  recipient : String
  contextID : String
  required : Bool
deriving DecidableEq

/-- The anchor's records, newest first. `nodesUnder` and `membersUnder` remember which node and
member DIDs got a record while a request under the given key was handled. -/
structure Anchor where
  keys : String → Option PreAuthKeyData := fun _ => none
  members : List MemberRecord := []
  nodes : List NodeRecord := []
  deliveries : List (String × String × String) := []
  nodesUnder : String → List String := fun _ => []
  membersUnder : String → List String := fun _ => []

namespace Anchor

def addMember (anchor : Anchor) (keyID : String) (member : MemberRecord) : Anchor :=
  { anchor with
    members := member :: anchor.members
    membersUnder := Function.update anchor.membersUnder keyID
      (member.recipient :: anchor.membersUnder keyID) }

def addNode (anchor : Anchor) (keyID : String) (node : NodeRecord) : Anchor :=
  { anchor with
    nodes := node :: anchor.nodes
    nodesUnder := Function.update anchor.nodesUnder keyID
      (node.recipient :: anchor.nodesUnder keyID) }

def setKey (anchor : Anchor) (keyID : String) (key : PreAuthKeyData) : Anchor :=
  { anchor with keys := Function.update anchor.keys keyID (some key) }

end Anchor

/-- How a write ends: `lost` when it was carried out and the caller sees an error all the same. -/
inductive CallOutcome where
  | ok
  | failed
  | lost
deriving DecidableEq

def CallOutcome.carriedOut : CallOutcome → Bool
  | .ok | .lost => true
  | .failed => false

/-- The outcomes of the calls one request leads to; a query succeeds or fails. A write also fails
where the encryption it needs cannot be prepared. -/
structure RequestCalls where
  now : Time
  readKey : Bool := true
  nodeQuery : Bool := true
  memberList : Bool := true
  memberNodes : String → Bool := fun _ => true
  memberQuery : Bool := true
  memberWrite : CallOutcome := .ok
  /-- the record ID the new member record gets -/
  memberRecordID : String := ""
  nodeWrite : CallOutcome := .ok
  deliveryQuery : String → Bool := fun _ => true
  delivery : String → CallOutcome := fun _ => .ok
  markWrite : CallOutcome := .ok
  delete : CallOutcome := .ok

/-- The approver's parameters, with the proof checks, the time format and the address allocation
as functions. -/
structure Approver where
  networkRecordID : String
  /-- `isOwnerRootManager`: this approver can unseal audience keys -/
  ownerRoot : Bool
  /-- `invite.VerifyProof(secret, networkID, nodeDID, proof)` -/
  verifyProof : String → String → String → String → Bool
  /-- `VerifyNodeJoinProof(nodeDID, proof, networkID, memberDID, preAuthKeyID)` -/
  verifyNodeJoinProof : String → String → String → String → String → Bool
  parseTime : String → Option Time
  /-- `AllocateMeshIP(cidr, nodeDID)` for the network's CIDR -/
  allocateMeshIP : String → Option String

inductive Verdict where
  | approved
  | rejected
  | pending
deriving DecidableEq

/-- A pending request: its payload, `none` where it does not parse, and what its calls come to. -/
structure PendingRequest where
  data : Option NodeRequestData
  calls : RequestCalls

def readPreAuthKey (anchor : Anchor) (recordID : String) (calls : RequestCalls) :
    Option PreAuthKeyData :=
  if recordID = "" ∨ calls.readKey = false then none else anchor.keys recordID

/-- A key with an expiry that has passed, or does not parse. -/
def preAuthKeyExpired (a : Approver) (key : PreAuthKeyData) (now : Time) : Bool :=
  key.expiresAt != "" && match a.parseTime key.expiresAt with
    | none => true
    | some expiresAt => decide (now > expiresAt)

def preAuthKeyAllows (a : Approver) (key : PreAuthKeyData) (nodeDID : String) (now : Time) :
    Bool :=
  if key.key = "" ∨ nodeDID = "" then false
  else if preAuthKeyExpired a key now then false
  else if nodeDID ∈ key.usedBy then true
  else key.reusable || key.usedBy.isEmpty

/-- The member loop of `nodeRecordExists`. -/
def memberNodeExists (anchor : Anchor) (nodeDID : String) (calls : RequestCalls) :
    List MemberRecord → Option Bool
  | [] => some false
  | m :: ms =>
    if calls.memberNodes m.id = false then none
    else if anchor.nodes.any fun n => n.recipient = nodeDID ∧ n.memberRecordID = m.id then some true
    else memberNodeExists anchor nodeDID calls ms

def nodeRecordExists (anchor : Anchor) (nodeDID : String) (calls : RequestCalls) : Option Bool :=
  if calls.nodeQuery = false then none
  else if anchor.nodes.any fun n => n.recipient = nodeDID ∧ n.memberRecordID = "" then some true
  else if calls.memberList = false then none
  else memberNodeExists anchor nodeDID calls anchor.members

/-- `ensureMemberRecord` with `CreateMember`, for a request under the given key. -/
def ensureMemberRecord (anchor : Anchor) (keyID memberDID label : String) (calls : RequestCalls) :
    Anchor × Option String :=
  if calls.memberQuery = false then (anchor, none)
  else match anchor.members.find? (·.recipient = memberDID) with
    | some m => (anchor, some m.id)
    | none =>
      let member := { id := calls.memberRecordID, recipient := memberDID, label }
      (if calls.memberWrite.carriedOut then anchor.addMember keyID member else anchor,
        if calls.memberWrite = .ok then some calls.memberRecordID else none)

/-- `RegisterNode` for a request under the given key. -/
def registerNode (anchor : Anchor) (keyID : String) (node : NodeRecord) (calls : RequestCalls) :
    Anchor × Bool :=
  (if calls.nodeWrite.carriedOut then anchor.addNode keyID node else anchor,
    calls.nodeWrite = .ok)

/-- The loop of `deliverJoinerAudienceKeys`: a failed delivery stops it only where it is
required. -/
def deliverTargets (calls : RequestCalls) (anchor : Anchor) :
    List DeliveryTarget → Anchor × Bool
  | [] => (anchor, true)
  | t :: ts =>
    let record := (t.rolePath, t.contextID, t.recipient)
    if calls.deliveryQuery t.rolePath ∧ record ∈ anchor.deliveries then
      deliverTargets calls anchor ts
    else
      let anchor := if (calls.delivery t.rolePath).carriedOut then
          { anchor with deliveries := record :: anchor.deliveries }
        else anchor
      if calls.delivery t.rolePath ≠ .ok ∧ t.required then (anchor, false)
      else deliverTargets calls anchor ts

def deliveryTargets (a : Approver) (memberRecordID memberDID nodeDID : String) :
    List DeliveryTarget :=
  if memberRecordID ≠ "" then
    [⟨"network/member", memberDID, a.networkRecordID, false⟩,
      ⟨"network/member/node", nodeDID, a.networkRecordID ++ "/" ++ memberRecordID, true⟩]
  else [⟨"network/node", nodeDID, a.networkRecordID, true⟩]

def deliverJoinerAudienceKeys (a : Approver) (anchor : Anchor)
    (memberRecordID memberDID nodeDID : String) (calls : RequestCalls) : Anchor × Bool :=
  if !a.ownerRoot then (anchor, true)
  else deliverTargets calls anchor (deliveryTargets a memberRecordID memberDID nodeDID)

def markPreAuthKeyUsed (anchor : Anchor) (keyID : String) (key : PreAuthKeyData) (nodeDID : String)
    (calls : RequestCalls) : Anchor × Bool :=
  if nodeDID ∈ key.usedBy then (anchor, true)
  else
    let key := { key with usedBy := key.usedBy ++ [nodeDID] }
    (if calls.markWrite.carriedOut then anchor.setKey keyID key else anchor,
      calls.markWrite = .ok)

/-- The checks before the first write: the key the request comes under, and whether the node has a
record already. -/
def checkRequest (a : Approver) (anchor : Anchor) (req : NodeRequestData) (calls : RequestCalls) :
    Except Verdict (PreAuthKeyData × Bool) :=
  match readPreAuthKey anchor req.preAuthKeyID calls with
  | none => .error .pending
  | some key =>
    if !preAuthKeyAllows a key req.nodeDID calls.now ||
        !a.verifyProof key.key a.networkRecordID req.nodeDID req.preAuthProof then .error .rejected
    else if req.nodeProof ≠ "" ∧ a.verifyNodeJoinProof req.nodeDID req.nodeProof a.networkRecordID
        req.effectiveOwnerDID req.preAuthKeyID = false then .error .rejected
    else match nodeRecordExists anchor req.nodeDID calls with
      | none => .error .pending
      | some present => .ok (key, present)

/-- The member record of the owner, where the owner is not the node itself. -/
def admitMember (anchor : Anchor) (req : NodeRequestData) (key : PreAuthKeyData)
    (calls : RequestCalls) : Anchor × Option String :=
  let ownerDID := req.effectiveOwnerDID
  if ownerDID ≠ "" ∧ ownerDID ≠ req.nodeDID then
    ensureMemberRecord anchor req.preAuthKeyID ownerDID (firstNonEmpty [req.label, key.label]) calls
  else (anchor, some "")

/-- The record `RegisterNode` is asked to write. -/
def requestedNode (req : NodeRequestData) (key : PreAuthKeyData)
    (memberRecordID memberDID meshIP : String) : NodeRecord :=
  { recipient := req.nodeDID, memberRecordID, meshIP, ownerDID := memberDID,
    label := firstNonEmpty [req.label, key.label], delegateDID := req.delegateDID }

/-- The node record, where there is none yet; `none` lets the request go on. -/
def admitNode (a : Approver) (anchor : Anchor) (req : NodeRequestData) (key : PreAuthKeyData)
    (present : Bool) (memberRecordID memberDID : String) (calls : RequestCalls) :
    Anchor × Option Verdict :=
  if present then (anchor, none)
  else match a.allocateMeshIP req.nodeDID with
    | none => (anchor, some .rejected)
    | some meshIP =>
      let registered := registerNode anchor req.preAuthKeyID
        (requestedNode req key memberRecordID memberDID meshIP) calls
      (registered.1, if registered.2 then none else some .pending)

/-- What is left once the records are there: the keys for the joiner, the used mark, the request's
removal. -/
def settleRequest (a : Approver) (anchor : Anchor) (req : NodeRequestData) (key : PreAuthKeyData)
    (memberRecordID memberDID : String) (calls : RequestCalls) : Anchor × Verdict :=
  let delivered := deliverJoinerAudienceKeys a anchor memberRecordID memberDID req.nodeDID calls
  if !delivered.2 then (delivered.1, .pending)
  else
    let marked := markPreAuthKeyUsed delivered.1 req.preAuthKeyID key req.nodeDID calls
    if !marked.2 then (marked.1, .pending)
    else if calls.delete ≠ .ok then (marked.1, .pending)
    else (marked.1, .approved)

/-- The writes of one request that has passed the checks, in the order of the source. -/
def admitRequest (a : Approver) (anchor : Anchor) (req : NodeRequestData) (key : PreAuthKeyData)
    (present : Bool) (calls : RequestCalls) : Anchor × Verdict :=
  let memberDID := if req.effectiveOwnerDID = "" then req.nodeDID else req.effectiveOwnerDID
  match admitMember anchor req key calls with
  | (anchor, none) => (anchor, .pending)
  | (anchor, some memberRecordID) =>
    match admitNode a anchor req key present memberRecordID memberDID calls with
    | (anchor, some verdict) => (anchor, verdict)
    | (anchor, none) => settleRequest a anchor req key memberRecordID memberDID calls

/-- One turn of the loop of `ApprovePreAuthRequests`. -/
def approveRequest (a : Approver) (anchor : Anchor) (request : PendingRequest) : Anchor × Verdict :=
  match request.data with
  | none => (anchor, .rejected)
  | some req =>
    match checkRequest a anchor req request.calls with
    | .error verdict => (anchor, verdict)
    | .ok (key, present) => admitRequest a anchor req key present request.calls

structure ApprovePreAuthResult where
  approved : Nat := 0
  rejected : Nat := 0
  pending : Nat := 0

def ApprovePreAuthResult.count (r : ApprovePreAuthResult) : Verdict → ApprovePreAuthResult
  | .approved => { r with approved := r.approved + 1 }
  | .rejected => { r with rejected := r.rejected + 1 }
  | .pending => { r with pending := r.pending + 1 }

/-- One pass over the pending requests. A pass whose own queries fail touches no record and is the
pass over no request. -/
def approvePreAuthRequests (a : Approver) (anchor : Anchor) (requests : List PendingRequest) :
    Anchor × ApprovePreAuthResult :=
  requests.foldl (fun state request =>
    let step := approveRequest a state.1 request
    (step.1, state.2.count step.2)) (anchor, {})

end Meshd.Mesh

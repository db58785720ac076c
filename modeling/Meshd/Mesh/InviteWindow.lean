import Meshd.Control.NodeExpiry
import Meshd.Mesh.InviteUse

namespace Meshd.Mesh

open Meshd.Framework

/-- The payload of a node record, with the empty text for a field that is left out. -/
structure NodeData where
  meshIP : String
  label : String := ""
  ownerDID : String := ""
  memberDID : String := ""
  delegateDID : String := ""
  expiresAt : String := ""

/-- What the control client reads of it. -/
def NodeData.record (data : NodeData) : Control.NodeRecord where
  meshIP := data.meshIP
  label := data.label
  ownerDID := data.ownerDID
  memberDID := data.memberDID
  expiresAt := data.expiresAt

/-- The parameters of `RegisterNode` that get into a new record. -/
structure RegisterNodeParams where
  memberRecordID : String := ""
  nodeDID : String
  meshIP : String
  label : String := ""
  ownerDID : String := ""
  delegateDID : String := ""
  expiresAt : String := ""

/-- The payload that `RegisterNode` writes. -/
def RegisterNodeParams.nodeData (params : RegisterNodeParams) : NodeData :=
  let ownerDID := if params.ownerDID ≠ params.nodeDID then params.ownerDID else ""
  { meshIP := params.meshIP
    label := params.label
    ownerDID
    memberDID := ownerDID
    delegateDID := if params.delegateDID ≠ params.nodeDID then params.delegateDID else ""
    expiresAt := params.expiresAt }

/-- What `ApprovePreAuthRequests` calls `RegisterNode` with for a node. It sets no `ExpiresAt`. -/
def NodeRecord.registerNodeParams (node : NodeRecord) : RegisterNodeParams where
  memberRecordID := node.memberRecordID
  nodeDID := node.recipient
  meshIP := node.meshIP
  label := node.label
  ownerDID := node.ownerDID
  delegateDID := node.delegateDID

namespace Dashboard

/-- A pending request as the dashboard lists it, with the empty text for `undefined`. Of `roleKeys`
there are the role paths. -/
structure NodeRequest where
  recordId : String
  protocolPath : String := ""
  nodeDID : String
  ownerDID : String := ""
  memberDID : String := ""
  delegateDID : String := ""
  nodeProof : String := ""
  requestKind : String := ""
  label : String := ""
  sourceDWN : String := ""
  preAuthKeyId : String := ""
  preAuthProof : String := ""
  requestedAt : String := ""
  expiresAt : String := ""
  roleKeys : List String := []

structure Network where
  recordId : String
  name : String := ""
  meshCIDR : String
  anchorEndpoint : String := ""

structure Member where
  recordId : String
  did : String
  createdAt : String := ""

structure AudienceKeyDelivery where
  delivered : Bool
  reason : Option String := none

structure AuthoredRecord where
  recordId : String
  dateCreated : String := ""
  audienceKeyDelivery : Option AudienceKeyDelivery := none

def AuthoredRecord.delivered (record : AuthoredRecord) : Bool :=
  (record.audienceKeyDelivery.map (·.delivered)).getD false

def AuthoredRecord.reason (record : AuthoredRecord) : String :=
  (record.audienceKeyDelivery.bind (·.reason)).getD "no delivery outcome was reported"

/-- The payload of the answer to an owner's request. -/
structure NodeApproval where
  ownerDID : String
  nodeDID : String
  networkRecordId : String
  networkName : String
  meshCIDR : String
  meshIP : String
  anchorEndpoint : String
  memberRecordId : String
  memberDateCreated : String
  nodeRecordId : String
  nodeDateCreated : String
  label : String
  expiresAt : String
  requestRecordId : String

/-- A node record to be written below a member. -/
structure NodeWrite where
  recipient : String
  memberRecordId : String
  data : NodeData

/-- What the dashboard sends to the owner's DWN. -/
inductive Write where
  | member (recipient label : String)
  | node (write : NodeWrite)
  | invite (recordId : String) (rewrite : Rewrite)
  | approval (approval : NodeApproval)
  | delete (recordId : String)

/-- Signatures, dates and addresses. -/
structure Services where
  verifyNodeSignature : String → String → String → Bool
  inviteProof : String → String → String → String
  parseDate : String → Option Time
  allocateMeshIp : String → String → Except String String

/-- What the calls of one approval come to. The keys come with their record IDs. -/
structure Calls where
  now : Time
  keyQuery : Except String (List (String × PreAuthKeyData)) := .ok []
  memberQuery : Except String (List Member) := .ok []
  memberWrite : Except String AuthoredRecord
  nodeWrite : Except String AuthoredRecord
  inviteWrite : Except String Unit := .ok ()
  approvalWrite : Except String Unit := .ok ()
  delete : String → Except String Unit := fun _ => .ok ()

structure ApproveResult where
  memberRecordId : String
  nodeRecordId : String
  meshIP : String

/-- A computation that sends writes and may throw. -/
abbrev ApproveM := EStateM String (List Write)

def send {α : Type} (w : Write) (outcome : Except String α) : ApproveM α := do
  modify (· ++ [w])
  ofExcept outcome

def isOwnerNodeRequest (request : NodeRequest) : Bool :=
  request.protocolPath == "nodeRequest" || request.requestKind == "owner-node"

def nodeOwnerDID (request : NodeRequest) : String :=
  firstNonEmpty [request.ownerDID, request.memberDID, request.nodeDID]

def nodeJoinProofMessage (networkId nodeDID ownerDID preAuthKeyId : String) : String :=
  "meshd node join v1\n" ++ "network=" ++ networkId ++ "\n" ++ "node=" ++ nodeDID ++ "\n" ++
    "member=" ++ firstNonEmpty [ownerDID, nodeDID] ++ "\n" ++ "preauth=" ++ preAuthKeyId ++ "\n"

def ownerNodeRequestProofMessage (ownerDID nodeDID sourceDWN requestedAt : String) : String :=
  "meshd owner node request v1\n" ++ "owner=" ++ ownerDID ++ "\n" ++ "node=" ++ nodeDID ++ "\n" ++
    "sourceDWN=" ++ sourceDWN ++ "\n" ++ "requestedAt=" ++ requestedAt ++ "\n"

section Approval
variable (services : Services) (ownerDid : String) (network : Network) (request : NodeRequest)
  (calls : Calls)

def verifyNodeJoinProof : Bool :=
  request.nodeProof ≠ "" && services.verifyNodeSignature request.nodeDID request.nodeProof
    (nodeJoinProofMessage network.recordId request.nodeDID (nodeOwnerDID request)
      request.preAuthKeyId)

def verifyOwnerNodeRequestProof : Bool :=
  request.nodeProof ≠ "" && request.ownerDID ≠ "" && request.requestedAt ≠ "" &&
    services.verifyNodeSignature request.nodeDID request.nodeProof
      (ownerNodeRequestProofMessage request.ownerDID request.nodeDID request.sourceDWN
        request.requestedAt)

def verifyInviteProof (key : PreAuthKeyData) (proof : String) : Bool :=
  proof ≠ "" && key.key ≠ "" &&
    services.inviteProof key.key network.recordId request.nodeDID == proof

def readPreAuthKey : Except String PreAuthKeyData :=
  if request.preAuthKeyId = "" ∨ request.preAuthProof = "" then
    .error "The pending invite request is missing preauth data."
  else do
    let entries ← calls.keyQuery
    let keys := entries.filterMap fun entry => (parseMeshdPreAuthKeyRecord entry.2).map (entry.1, ·)
    match keys.find? (·.1 = request.preAuthKeyId) with
    | none => .error "The preauth key for this request was not found."
    | some (_, key) =>
      if !preAuthKeyAllows services.parseDate key request.nodeDID calls.now then
        .error "The preauth key for this request is expired or already used."
      else if !verifyInviteProof services network request key request.preAuthProof then
        .error "The pending request preauth proof could not be verified."
      else .ok key

/-- The checks before the first write, with the key that an invite request comes under. -/
def checkRequest : Except String (Option PreAuthKeyData) :=
  if isOwnerNodeRequest request then
    if verifyOwnerNodeRequestProof services request then .ok none
    else .error "The pending owner request node proof could not be verified."
  else if verifyNodeJoinProof services network request then
    (readPreAuthKey services network request calls).map some
  else .error "The pending invite request node proof could not be verified."

def ensureMemberRecord (nodeOwnerDID label : String) : ApproveM AuthoredRecord := do
  let members ← ofExcept calls.memberQuery
  match members.find? (·.did = nodeOwnerDID) with
  | some existing => pure { recordId := existing.recordId, dateCreated := existing.createdAt }
  | none =>
    let memberRecord ← send (.member nodeOwnerDID label) calls.memberWrite
    if memberRecord.delivered then pure memberRecord
    else
      send (.delete memberRecord.recordId) (calls.delete memberRecord.recordId)
      throw ("Approved node " ++ nodeOwnerDID ++ " but could not deliver its network/member " ++
        "reading-role audience key (" ++ memberRecord.reason ++ "); the member record was rolled " ++
        "back so you can retry. The node cannot decrypt its peers until this delivery succeeds.")

/-- The expiry of the node: `options.expiresAt` where `options` has the property, or else that of
the invite, or else that of the request. -/
def nodeExpiry (override : Option String) (preAuthKey : Option PreAuthKeyData) : String :=
  match override with
  | some expiresAt => trim expiresAt
  | none => firstNonEmpty [(preAuthKey.map (·.expiresAt)).getD "", request.expiresAt]

def nodeData (meshIP expiresAt : String) : NodeData where
  meshIP
  label := trim request.label
  ownerDID := nodeOwnerDID request
  memberDID := nodeOwnerDID request
  delegateDID := request.delegateDID
  expiresAt

def markInvite : Option PreAuthKeyData → ApproveM Unit
  | none => pure ()
  | some key =>
    match markPreAuthKeyUsed key request.nodeDID with
    | .keep => pure ()
    | rewrite => send (.invite request.preAuthKeyId rewrite) calls.inviteWrite

def answerOwner (approval : NodeApproval) : ApproveM Unit :=
  if isOwnerNodeRequest request then send (.approval approval) calls.approvalWrite else pure ()

/-- What follows the node record: the mark on the invite, the answer to an owner's request, and the
removal of the request. -/
def settleRequest (preAuthKey : Option PreAuthKeyData) (approval : NodeApproval) :
    ApproveM Unit := do
  markInvite request calls preAuthKey
  answerOwner request calls approval
  send (.delete request.recordId) (calls.delete request.recordId)

/-- The node record, which is taken back where its key is not delivered. -/
def writeNodeRecord (write : NodeWrite) : ApproveM AuthoredRecord := do
  let nodeRecord ← send (.node write) calls.nodeWrite
  if nodeRecord.delivered then pure nodeRecord
  else
    send (.delete nodeRecord.recordId) (calls.delete nodeRecord.recordId)
    throw ("Approved node " ++ request.nodeDID ++ " but could not deliver its role-audience key (" ++
      nodeRecord.reason ++ "); the node record was rolled back so you can retry. The node cannot " ++
      "decrypt its peers until delivery succeeds.")

def approveMeshdNodeRequest (override : Option String) : ApproveM ApproveResult := do
  let preAuthKey ← ofExcept (checkRequest services network request calls)
  if "network/member" ∉ request.roleKeys then
    throw ("Node " ++ request.nodeDID ++ " did not include its network/member role-audience key, " ++
      "so the reading-role audience its peers are encrypted to cannot be delivered and it would " ++
      "never decrypt its peers. Upgrade the meshd node to a build that publishes the " ++
      "network/member roleKey in its join request (#192).")
  else
    let member ← ensureMemberRecord calls (nodeOwnerDID request) (trim request.label)
    let meshIP ← ofExcept (services.allocateMeshIp network.meshCIDR request.nodeDID)
    let expiresAt := nodeExpiry request override preAuthKey
    if "network/member/node" ∉ request.roleKeys then
      throw ("Node " ++ request.nodeDID ++ " did not include its network/member/node " ++
        "role-audience key, so its encryption keys cannot be delivered and it would never decrypt " ++
        "its peers. Upgrade the meshd node to a build that publishes roleKeys in its join request " ++
        "(#187).")
    else
      let nodeRecord ← writeNodeRecord request calls
        ⟨request.nodeDID, member.recordId, nodeData request meshIP expiresAt⟩
      settleRequest request calls preAuthKey
        { ownerDID := ownerDid
          nodeDID := request.nodeDID
          networkRecordId := network.recordId
          networkName := network.name
          meshCIDR := network.meshCIDR
          meshIP
          anchorEndpoint := network.anchorEndpoint
          memberRecordId := member.recordId
          memberDateCreated := member.dateCreated
          nodeRecordId := nodeRecord.recordId
          nodeDateCreated := nodeRecord.dateCreated
          label := trim request.label
          expiresAt
          requestRecordId := request.recordId }
      pure { memberRecordId := member.recordId, nodeRecordId := nodeRecord.recordId, meshIP }

end Approval

/-- The node records among the writes. -/
def nodesOf (writes : List Write) : List NodeWrite :=
  writes.filterMap fun w => match w with
    | .node write => some write
    | _ => none

variable {services : Services} {ownerDid : String} {network : Network} {request : NodeRequest}
  {calls : Calls} {α : Type}

/-- The rule for a write that is not a node record. -/
theorem keeps_send {I : List NodeWrite → Prop} {w : Write} (hw : nodesOf [w] = [])
    (outcome : Except String α) : Keeps (fun ws => I (nodesOf ws)) (send w outcome) := by
  refine Keeps.bind (.modify fun ws hws => ?_) fun _ =>
    Triple.ofExcept (fun _ _ _ hws => hws) (fun _ _ _ hws => hws)
  rw [nodesOf, List.filterMap_append]
  change I (nodesOf ws ++ nodesOf [w])
  rw [hw, List.append_nil]
  exact hws

theorem triple_send_node (write : NodeWrite) (outcome : Except String α) :
    Triple (fun ws => nodesOf ws = []) (send (.node write) outcome)
      (fun _ ws => nodesOf ws = [write]) (fun _ ws => nodesOf ws = [write]) := by
  refine Triple.bind (Q := fun _ ws => nodesOf ws = [write]) (.modify fun ws hws => ?_) fun _ =>
    Triple.ofExcept (fun _ _ _ hws => hws) (fun _ _ _ hws => hws)
  rw [nodesOf, List.filterMap_append]
  change nodesOf ws ++ [write] = [write]
  rw [hws, List.nil_append]

theorem keeps_ensureMemberRecord {I : List NodeWrite → Prop} (nodeOwnerDID label : String) :
    Keeps (fun ws => I (nodesOf ws)) (ensureMemberRecord calls nodeOwnerDID label) := by
  apply Keeps.bind (Triple.ofExcept (fun _ _ _ hws => hws) (fun _ _ _ hws => hws))
  intro members
  cases members.find? (·.did = nodeOwnerDID) with
  | some existing => exact .pure _
  | none =>
    apply (keeps_send rfl _).bind
    intro memberRecord
    split_ifs
    · exact .pure _
    · exact (keeps_send rfl _).bind fun _ => .throw _

theorem triple_writeNodeRecord (write : NodeWrite) :
    Triple (fun ws => nodesOf ws = []) (writeNodeRecord request calls write)
      (fun _ ws => nodesOf ws = [write]) (fun _ ws => nodesOf ws = [write]) := by
  apply (triple_send_node write _).bind
  intro nodeRecord
  have hrollback : Keeps (fun ws => nodesOf ws = [write])
      (send (.delete nodeRecord.recordId) (calls.delete nodeRecord.recordId)) :=
    keeps_send (I := (· = [write])) rfl _
  split_ifs
  · exact Keeps.pure _
  · exact hrollback.bind fun _ => .throw _

theorem keeps_markInvite {I : List NodeWrite → Prop} (preAuthKey : Option PreAuthKeyData) :
    Keeps (fun ws => I (nodesOf ws)) (markInvite request calls preAuthKey) := by
  cases preAuthKey with
  | none => exact .pure _
  | some key =>
    rw [markInvite]
    split
    · exact .pure _
    · exact keeps_send rfl _

theorem keeps_settleRequest {I : List NodeWrite → Prop} (preAuthKey : Option PreAuthKeyData)
    (approval : NodeApproval) :
    Keeps (fun ws => I (nodesOf ws)) (settleRequest request calls preAuthKey approval) := by
  apply (keeps_markInvite preAuthKey).bind
  intro _
  refine Keeps.bind ?_ fun _ => keeps_send rfl _
  rw [answerOwner]
  split_ifs
  · exact keeps_send rfl _
  · exact .pure _

/-- The node record of an approval. -/
def Grants (request : NodeRequest) (expiresAt : String) (nodes : List NodeWrite) : Prop :=
  ∃ memberRecordId meshIP,
    nodes = [⟨request.nodeDID, memberRecordId, nodeData request meshIP expiresAt⟩]

/-- An approval that goes through writes one node record, and one that does not at most one. Each
has the same expiry. -/
theorem triple_approveMeshdNodeRequest (ownerDid : String) (override : Option String)
    {preAuthKey : Option PreAuthKeyData}
    (hcheck : checkRequest services network request calls = .ok preAuthKey) :
    Triple (fun ws => nodesOf ws = [])
      (approveMeshdNodeRequest services ownerDid network request calls override)
      (fun _ ws => Grants request (nodeExpiry request override preAuthKey) (nodesOf ws))
      (fun _ ws => nodesOf ws = [] ∨
        Grants request (nodeExpiry request override preAuthKey) (nodesOf ws)) := by
  refine Triple.bind (Q := fun key ws => key = preAuthKey ∧ nodesOf ws = []) (Triple.ofExcept
    (fun key hkey ws hws => ?_) (fun e he ws hws => .inl hws)) fun key => ?_
  · rw [hcheck] at hkey
    exact ⟨(Except.ok.inj hkey).symm, hws⟩
  refine Triple.of_fact (fun ws hws => hws.1) fun hkey => ?_
  subst hkey
  refine Triple.ite (fun _ => .throw fun ws hws => .inl hws.2) fun _ => ?_
  refine Triple.bind (Q := fun _ ws => nodesOf ws = []) ((keeps_ensureMemberRecord
    (I := (· = [])) _ _).imp (fun ws hws => hws.2) (fun _ _ hws => hws) (fun _ _ hws => .inl hws))
    fun member => ?_
  refine Triple.bind (Q := fun _ ws => nodesOf ws = []) (Triple.ofExcept (fun _ _ _ hws => hws)
    (fun _ _ _ hws => .inl hws)) fun meshIP => ?_
  refine Triple.ite (fun _ => .throw fun ws hws => .inl hws) fun _ => ?_
  refine Triple.bind (Q := fun _ ws => Grants request (nodeExpiry request override key) (nodesOf ws))
    ((triple_writeNodeRecord _).imp (fun _ hws => hws) (fun _ _ hws => ⟨_, _, hws⟩)
      (fun _ _ hws => .inr ⟨_, _, hws⟩)) fun nodeRecord => ?_
  refine Triple.bind (Q := fun _ ws => Grants request (nodeExpiry request override key) (nodesOf ws))
    ((keeps_settleRequest (I := Grants request (nodeExpiry request override key)) _ _).orRight)
    fun _ => Triple.pure fun ws hws => hws

/-- The writes that were sent, whether the approval goes through or not. -/
def writesOf : EStateM.Result String (List Write) ApproveResult → List Write
  | .ok _ writes => writes
  | .error _ writes => writes

theorem nodeExpiry_of_invite {key : PreAuthKeyData} (hexp : key.expiresAt ≠ "") :
    nodeExpiry request none (some key) = key.expiresAt := by
  simp [nodeExpiry, firstNonEmpty, hexp]

variable (services ownerDid network request calls) in
/-- The expiry of the invite binds the node: an approval without an override writes it to the node's
record, and no load that gets this record has the node in a map after that time. -/
theorem invite_window {key : PreAuthKeyData} {t : Time} {cfg : Control.ClientConfig}
    (hcheck : checkRequest services network request calls = .ok (some key))
    (hexp : key.expiresAt ≠ "") (hparse : cfg.platform.parseTime key.expiresAt = some t) :
    let run := (approveMeshdNodeRequest services ownerDid network request calls none).run []
    (∀ result writes, run = .ok result writes → ∃ node, nodesOf writes = [node]) ∧
    ∀ node ∈ nodesOf (writesOf run), node.recipient = request.nodeDID ∧
      ∀ env s resp s', env.Serves request.nodeDID node.data.record →
        Control.loadState cfg env s = .ok resp s' → t < env.now →
        ∀ peer ∈ resp.peers, peer.did ≠ request.nodeDID := by
  intro run
  have htriple := triple_approveMeshdNodeRequest ownerDid none hcheck
  rw [nodeExpiry_of_invite hexp] at htriple
  have hwritten : nodesOf (writesOf run) = [] ∨
      Grants request key.expiresAt (nodesOf (writesOf run)) := by
    cases hrun : run with
    | ok result writes => exact .inr (htriple.ok rfl hrun)
    | error e writes => exact htriple.error rfl hrun
  refine ⟨fun result writes hrun => ?_, fun node hnode => ?_⟩
  · obtain ⟨_, _, hnodes⟩ := htriple.ok rfl hrun
    exact ⟨_, hnodes⟩
  · obtain hnone | ⟨memberRecordId, meshIP, hnodes⟩ := hwritten
    · rw [hnone] at hnode
      cases hnode
    · rw [hnodes, List.mem_singleton] at hnode
      subst hnode
      refine ⟨rfl, fun env s resp s' hserves hload hnow => ?_⟩
      exact (Control.Loader.dated_of_loadState hserves hload).absent hexp hparse hnow
        (Control.Loader.map_of_loadState hload)

end Dashboard

/-- A node that the approver has registered is in the map at any time: whatever the expiry of its
invite, its record has none. -/
theorem registered_listed {node : NodeRecord} {cfg : Control.ClientConfig} {env : Control.LoadEnv}
    {s s' : Control.Loader} {resp : Control.MapResponse} {p : Nat}
    (hserves : env.Serves node.recipient node.registerNodeParams.nodeData.record)
    (hload : Control.loadState cfg env s = .ok resp s')
    (hlookup : s'.cached.nodes.lookup node.recipient = some p) (hself : node.recipient ≠ cfg.selfDID)
    (haddr : Control.Addressed cfg.platform s'.cached.network node.recipient (s'.cached.record p)) :
    ∃ peer ∈ resp.peers, peer.did = node.recipient :=
  (Control.Loader.dated_of_loadState hserves hload).listed hlookup hself haddr
    (Control.Loader.map_of_loadState hload)

/-- The end of May, and nothing else, as a time. -/
def juneTime (text : String) : Option Time :=
  if text = "2026-06-01T00:00:00Z" then some (10 * minute) else none

/-- An invite that is good until the end of May. -/
def mayInvite : PreAuthKeyData := { key := "secret", expiresAt := "2026-06-01T00:00:00Z" }

def mayConfig : Control.ClientConfig :=
  ⟨{ Control.homePlatform with parseTime := juneTime }, "bafy-network", "did:jwk:alice"⟩

/-- What alice's client gets at a time, where bob has a record. -/
def mayEnv (now : Time) (bob : NodeData) : Control.LoadEnv :=
  { Control.homeEnv with
    nodes := Control.replyWith
      [{ metadata := ⟨"bafy-alice", "bafy-network", "did:jwk:alice"⟩,
         value := { meshIP := "10.200.0.3" } },
        { metadata := ⟨"bafy-bob", "bafy-network", "did:jwk:bob"⟩, value := bob.record }]
    now }

theorem mayEnv_serves (now : Time) (bob : NodeData) :
    (mayEnv now bob).Serves "did:jwk:bob" bob.record := by
  intro entries hanswered entry hmem hdid
  obtain ⟨t, reply, ⟨⟩, hentries⟩ | ⟨t, reply, ⟨⟩, hentries⟩ := hanswered
  · obtain rfl := Except.ok.inj hentries
    obtain rfl | hmem := List.mem_cons.mp hmem
    · exact absurd hdid (by decide)
    · obtain rfl := List.mem_singleton.mp hmem
      exact ⟨rfl, rfl⟩
  · obtain rfl := Except.ok.inj hentries
    cases hmem

/-- The DIDs of the peers in the map of a load, if it succeeds. -/
def peersOf : EStateM.Result Control.LoadError Control.Loader Control.MapResponse →
    Option (List String)
  | .ok resp _ => some (resp.peers.map (·.did))
  | .error _ _ => none

namespace Dashboard

def mayServices : Services where
  verifyNodeSignature := fun _ proof _ => proof == "signed"
  inviteProof := fun secret network node => secret ++ "/" ++ network ++ "/" ++ node
  parseDate := juneTime
  allocateMeshIp := fun _ _ => .ok "10.200.0.2"

def mayNetwork : Network := { recordId := "bafy-network", meshCIDR := "10.200.0.0/16" }

def mayRequest : NodeRequest where
  recordId := "bafy-request"
  nodeDID := "did:jwk:bob"
  nodeProof := "signed"
  preAuthKeyId := "bafy-token"
  preAuthProof := "secret/bafy-network/did:jwk:bob"
  roleKeys := ["network/member", "network/member/node"]

def mayCalls : Calls where
  now := 9 * minute
  keyQuery := .ok [("bafy-token", mayInvite)]
  memberWrite := .ok { recordId := "bafy-member", audienceKeyDelivery := some { delivered := true } }
  nodeWrite := .ok { recordId := "bafy-bob", audienceKeyDelivery := some { delivered := true } }

/-- The record that bob gets from the dashboard, and the maps a minute before and a minute after the
end of May. -/
theorem invite_window_bob :
    ∃ node, nodesOf (writesOf ((approveMeshdNodeRequest mayServices "did:dht:owner" mayNetwork
        mayRequest mayCalls none).run [])) = [node] ∧
      peersOf (Control.loadState mayConfig (mayEnv (9 * minute) node.data)
        (Control.newDWNClient Control.emptyMemory)) = some ["did:jwk:bob"] ∧
      ∃ resp s', Control.loadState mayConfig (mayEnv (11 * minute) node.data)
          (Control.newDWNClient Control.emptyMemory) = .ok resp s' ∧
        ∀ peer ∈ resp.peers, peer.did ≠ "did:jwk:bob" := by
  have hcheck : checkRequest mayServices mayNetwork mayRequest mayCalls = .ok (some mayInvite) := rfl
  have hparse : mayConfig.platform.parseTime mayInvite.expiresAt = some (10 * minute) := rfl
  have hwindow := (invite_window mayServices "did:dht:owner" mayNetwork mayRequest mayCalls hcheck
    (by decide) hparse).2
  refine ⟨⟨"did:jwk:bob", "bafy-member", nodeData mayRequest "10.200.0.2" mayInvite.expiresAt⟩,
    rfl, by decide +kernel, ?_⟩
  cases hload : Control.loadState mayConfig (mayEnv (11 * minute)
      (nodeData mayRequest "10.200.0.2" mayInvite.expiresAt))
      (Control.newDWNClient Control.emptyMemory) with
  | ok resp s' =>
    exact ⟨resp, s', rfl, (hwindow _ List.mem_cons_self).2 _ _ _ _ (mayEnv_serves _ _) hload
      (by decide)⟩
  | error e s' =>
    have hok : Control.failed (Control.loadState mayConfig (mayEnv (11 * minute)
        (nodeData mayRequest "10.200.0.2" mayInvite.expiresAt))
        (Control.newDWNClient Control.emptyMemory)) = false := by decide +kernel
    rw [hload] at hok
    cases hok

end Dashboard

def mayApprover : Approver := { Anchor.homeApprover with parseTime := juneTime }

def mayAnchor : Anchor where
  keys := fun id => if id = "bafy-token" then some mayInvite else none

/-- A minute before the end of May the approver lets bob in. A minute after it the invite is good for
nobody, and bob is in the map that alice gets. -/
theorem approver_drops_expiry :
    ∃ anchor node, approveRequest mayApprover mayAnchor
        (Anchor.inviteRequest "did:jwk:bob" "" { now := 9 * minute }) = (anchor, .approved) ∧
      anchor.nodes = [node] ∧ node.recipient = "did:jwk:bob" ∧
      mayConfig.platform.parseTime mayInvite.expiresAt = some (10 * minute) ∧
      preAuthKeyAllows mayApprover mayInvite "did:jwk:carol" (11 * minute) = false ∧
      (mayEnv (11 * minute) node.registerNodeParams.nodeData).Serves "did:jwk:bob"
        node.registerNodeParams.nodeData.record ∧
      peersOf (Control.loadState mayConfig (mayEnv (11 * minute) node.registerNodeParams.nodeData)
        (Control.newDWNClient Control.emptyMemory)) = some ["did:jwk:bob"] := by
  refine ⟨_, _, rfl, rfl, rfl, rfl, rfl, mayEnv_serves _ _, ?_⟩
  decide +kernel

end Meshd.Mesh

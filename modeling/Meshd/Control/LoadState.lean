import Meshd.Framework.Heap
import Meshd.Framework.Hoare
import Meshd.Control.MapResponse
import Meshd.Dwn.Transport

namespace Meshd.Control

open Meshd.Framework

/-- An error: what `errors.Is` finds in it, the delay of the `RateLimitError` that `errors.As` finds
first, and its text. -/
structure LoadError where
  rateLimited : Bool := false
  canceled : Bool := false
  deadlineExceeded : Bool := false
  retryAfter : Option Duration := none
  message : String
deriving DecidableEq

/-- An error that wraps nothing. -/
def LoadError.plain (message : String) : LoadError := { message }

/-- The error wrapped with `%w`. -/
def LoadError.wrap (context : String) (e : LoadError) : LoadError :=
  { e with message := context ++ ": " ++ e.message }

/-- `errors.Join`, which `errors.As` searches from the first error on. -/
def LoadError.join (errs : List LoadError) : LoadError where
  rateLimited := errs.any (·.rateLimited)
  canceled := errs.any (·.canceled)
  deadlineExceeded := errs.any (·.deadlineExceeded)
  retryAfter := errs.findSome? (·.retryAfter)
  message := "\n".intercalate (errs.map (·.message))

/-- The fields of an entry that are readable without a key. -/
structure EntryMetadata where
  recordID : String := ""
  parentID : String := ""
  recipient : String := ""
deriving DecidableEq

/-- An entry of a reply, with what `ParseEntryData` makes of it: the value it leaves, which may be
a part of it where there is an error. -/
structure Entry (α : Type) where
  metadata : EntryMetadata := {}
  value : α
  err : Option LoadError := none

/-- A reply to a query, with the delay that `retryAfterFromStatusDetail` reads from its detail. Its
entries may not be the array they should be. -/
structure DwnReply (α : Type) where
  code : Nat := 200
  detail : String := ""
  retryAfter : Option Duration := none
  entries : Except LoadError (List (Entry α))

/-- A reply to the read of the network record. -/
structure NetworkReply where
  code : Nat := 200
  detail : String := ""
  entry : Entry NetworkConfig

/-- The context of a load and all the answers it gets. The instants count the times the load looks
at its context; a query that is made more than once is answered by the instant. -/
structure LoadEnv where
  /-- The context is cancelled or past its deadline. -/
  done : Nat → Bool
  done_succ : ∀ t, done t = true → done (t + 1) = true
  /-- What a request on a context that is done comes back with. -/
  ctxError : LoadError
  network : Except LoadError (Option NetworkReply)
  nodes : Except LoadError (Option (DwnReply NodeRecord))
  members : Except LoadError (Option (DwnReply MemberRecord))
  memberNodes : Nat → Except LoadError (Option (DwnReply NodeRecord))
  relays : Except LoadError (Option (DwnReply RelayData))
  acl : Except LoadError (Option (DwnReply ACLPolicyData))
  nodeInfo : Nat → Except LoadError (Option (DwnReply NodeInfoData))
  endpoints : Nat → Except LoadError (Option (DwnReply EndpointData))
  /-- Where the iteration over the node map finds the parent of a child record. -/
  pick : Nat → Nat := fun _ => 0
  now : Time := 0

/-- The objects of the heap, the maps among them. -/
structure Memory where
  networks : Heap NetworkConfig
  members : Heap MemberRecord
  nodes : Heap NodeRecord
  relays : Heap RelayData
  policies : Heap ACLPolicyData
  memberMaps : Heap (GoMap Nat)
  nodeMaps : Heap (GoMap Nat)

/-- What the client caches between loads. Records and maps are pointers. -/
structure DWNClient where
  network : Option Nat := none
  members : Nat
  nodes : Nat
  relays : List Nat := []
  acl : Option Nat := none
  undecryptablePeers : Nat := 0
  unreadableEndpoints : Nat := 0
  droppedPeers : Nat := 0

/-- A reply whose entries a load went on to read, with those it passed to their handler. -/
structure AcceptedReply where
  entries : List EntryMetadata
  passed : List EntryMetadata := []
deriving DecidableEq

/-- The state of a load. The replies are a record of the run; the newest stands first. -/
structure Loader where
  client : DWNClient
  memory : Memory
  instant : Nat := 0
  replies : List AcceptedReply := []

abbrev LoadM := EStateM LoadError Loader

/-- The client's fixed fields. -/
structure ClientConfig where
  platform : Platform
  networkRecordID : String
  selfDID : String

/-- The fields a failed load puts back. -/
structure DwnClientStateSnapshot where
  network : Option Nat
  members : Nat
  nodes : Nat
  relays : List Nat
  acl : Option Nat

namespace Loader

def memberMap (s : Loader) : GoMap Nat := s.memory.memberMaps.cell s.client.members

def nodeMap (s : Loader) : GoMap Nat := s.memory.nodeMaps.cell s.client.nodes

def setNetwork (network : NetworkConfig) (s : Loader) : Loader :=
  { s with
    client := { s.client with network := some s.memory.networks.next }
    memory := { s.memory with networks := s.memory.networks.alloc network } }

/-- `clear` empties the map object itself. -/
def clearNodes (s : Loader) : Loader :=
  { s with memory := { s.memory with nodeMaps := s.memory.nodeMaps.set s.client.nodes ∅ } }

def clearMembers (s : Loader) : Loader :=
  { s with memory := { s.memory with memberMaps := s.memory.memberMaps.set s.client.members ∅ } }

def clearRelays (s : Loader) : Loader := { s with client := { s.client with relays := [] } }

def addNode (did : String) (node : NodeRecord) (s : Loader) : Loader :=
  { s with
    memory :=
      { s.memory with
        nodes := s.memory.nodes.alloc node
        nodeMaps := s.memory.nodeMaps.set s.client.nodes
          (s.nodeMap.insert did s.memory.nodes.next) } }

def addMember (did : String) (member : MemberRecord) (s : Loader) : Loader :=
  { s with
    memory :=
      { s.memory with
        members := s.memory.members.alloc member
        memberMaps := s.memory.memberMaps.set s.client.members
          (s.memberMap.insert did s.memory.members.next) } }

def addRelay (relay : RelayData) (s : Loader) : Loader :=
  { s with
    client := { s.client with relays := s.client.relays ++ [s.memory.relays.next] }
    memory := { s.memory with relays := s.memory.relays.alloc relay } }

def setACL (policy : ACLPolicyData) (s : Loader) : Loader :=
  { s with
    client := { s.client with acl := some s.memory.policies.next }
    memory := { s.memory with policies := s.memory.policies.alloc policy } }

/-- An assignment through a node pointer. -/
def updateNode (p : Nat) (f : NodeRecord → NodeRecord) (s : Loader) : Loader :=
  { s with
    memory := { s.memory with nodes := s.memory.nodes.set p (f (s.memory.nodes.cell p)) } }

def setInfo (p : Nat) (info : NodeInfoData) (s : Loader) : Loader :=
  s.updateNode p fun node => { node with info := some info }

def addEndpoint (p : Nat) (ep : EndpointData) (s : Loader) : Loader :=
  s.updateNode p fun node => { node with endpoints := node.endpoints ++ [ep] }

def countUndecryptable (s : Loader) : Loader :=
  { s with client := { s.client with undecryptablePeers := s.client.undecryptablePeers + 1 } }

def countUnreadable (s : Loader) : Loader :=
  { s with client := { s.client with unreadableEndpoints := s.client.unreadableEndpoints + 1 } }

def countDropped (n : Nat) (s : Loader) : Loader :=
  { s with client := { s.client with droppedPeers := s.client.droppedPeers + n } }

def accept (entries : List EntryMetadata) (s : Loader) : Loader :=
  { s with replies := { entries } :: s.replies }

def pass (entry : EntryMetadata) (s : Loader) : Loader :=
  { s with
    replies :=
      match s.replies with
      | [] => []
      | r :: rest => { r with passed := r.passed ++ [entry] } :: rest }

/-- The cached fields as the network map reads them. -/
def cached (s : Loader) : CachedState where
  network := s.client.network.map s.memory.networks.cell
  nodes := s.nodeMap
  record := s.memory.nodes.cell
  relays := s.client.relays.map s.memory.relays.cell
  acl := s.client.acl.map s.memory.policies.cell

/-- The state in which a load begins. -/
def start (s : Loader) : Loader := { s with instant := 0, replies := [] }

/-- A snapshot of the cached fields, with a clone of each map. -/
def stateSnapshot (s : Loader) : DwnClientStateSnapshot × Loader :=
  ({ network := s.client.network
     members := s.memory.memberMaps.next
     nodes := s.memory.nodeMaps.next
     relays := s.client.relays
     acl := s.client.acl },
   { s with
     memory :=
      { s.memory with
        memberMaps := s.memory.memberMaps.alloc s.memberMap
        nodeMaps := s.memory.nodeMaps.alloc s.nodeMap } })

def restoreState (previous : DwnClientStateSnapshot) (s : Loader) : Loader :=
  { s with
    client :=
      { s.client with
        network := previous.network
        members := previous.members
        nodes := previous.nodes
        relays := previous.relays
        acl := previous.acl } }

end Loader

/-- The trimmed status detail follows the code. -/
def queryRateLimitError {α : Type} (reply : DwnReply α) : LoadError where
  rateLimited := true
  retryAfter := some (reply.retryAfter.getD Dwn.defaultRateLimitRetryAfter)
  message :=
    let trimmed := Dwn.trimSpace reply.detail.toList
    "rate limited: query failed: " ++ toString reply.code ++
      (if trimmed = [] then "" else " " ++ String.ofList trimmed)

def queryEntries {α : Type} : Option (DwnReply α) → Except LoadError (List (Entry α))
  | none => .error { message := "nil reply" }
  | some reply =>
    if reply.code = 429 then .error (queryRateLimitError reply)
    else if reply.code ≠ 200 then
      .error { message := "query failed: " ++ toString reply.code ++ " " ++ reply.detail }
    else reply.entries

section Load
variable (cfg : ClientConfig) (env : LoadEnv) {α : Type}

/-- The next instant of the load. -/
def tick : LoadM Nat := modifyGet fun s => (s.instant, { s with instant := s.instant + 1 })

/-- The errors that end a load by themselves. -/
def fatalError (err : Option LoadError) : Bool :=
  err.any fun e => e.rateLimited || e.canceled || e.deadlineExceeded

def shouldAbortStateLoad (err : Option LoadError) : LoadM Bool := do
  let t ← tick
  pure (env.done t || fatalError err)

/-- A request to the anchor. A context that is done stops it before it is sent. -/
def send (answer : Nat → Except LoadError α) : LoadM (Except LoadError α) := do
  let t ← tick
  pure (if env.done t then .error env.ctxError else answer t)

def recordsQueryWithAuth (answer : Nat → Except LoadError (Option (DwnReply α))) :
    LoadM (Except LoadError (Option (DwnReply α))) := do
  match ← send env answer with
  | .ok (some reply) =>
    if reply.code = 429 then pure (.error (queryRateLimitError reply)) else pure (.ok (some reply))
  | result => pure result

/-- A query the load cannot do without. -/
def queryRequired (what : String) (answer : Nat → Except LoadError (Option (DwnReply α))) :
    LoadM (List (Entry α)) := do
  match ← recordsQueryWithAuth env answer with
  | .error e => throw (e.wrap ("querying " ++ what))
  | .ok reply =>
    match queryEntries reply with
    | .error e => throw (e.wrap ("parsing " ++ what))
    | .ok entries => pure entries

/-- A query whose failure is passed over, unless it ends the load. -/
def queryOptional (querying parsing : String)
    (answer : Nat → Except LoadError (Option (DwnReply α))) : LoadM (Option (List (Entry α))) := do
  match ← recordsQueryWithAuth env answer with
  | .error e => if ← shouldAbortStateLoad env (some e) then throw (e.wrap querying) else pure none
  | .ok reply =>
    match queryEntries reply with
    | .error e => if ← shouldAbortStateLoad env (some e) then throw (e.wrap parsing) else pure none
    | .ok entries => pure (some entries)

/-- The entry loop of nodes and child records. It also breaks on a context that is done after an
entry its handler accepted, and then has no error to report. -/
def loadEntries (handler : Entry α → LoadM (Option LoadError)) :
    List (Entry α) → LoadM (Option LoadError)
  | [] => pure none
  | entry :: rest => do
    modify (Loader.pass entry.metadata)
    let err ← handler entry
    if ← shouldAbortStateLoad env err then pure err else loadEntries handler rest

/-- The entry loop of members and relays, which looks at the context only after an error. -/
def loadParsedEntries (unreadable readable : Entry α → LoadM Unit) :
    List (Entry α) → LoadM (Option LoadError)
  | [] => pure none
  | entry :: rest => do
    modify (Loader.pass entry.metadata)
    match entry.err with
    | some err =>
      if ← shouldAbortStateLoad env (some err) then pure (some err)
      else
        unreadable entry
        loadParsedEntries unreadable readable rest
    | none =>
      readable entry
      loadParsedEntries unreadable readable rest

/-- The entries of an accepted reply, by one of the loops. -/
def readEntries (decrypting : String) (entries : List (Entry α))
    (loop : List (Entry α) → LoadM (Option LoadError)) : LoadM Unit := do
  modify (Loader.accept (entries.map (·.metadata)))
  match ← loop entries with
  | some e => throw (e.wrap decrypting)
  | none => pure ()

/-- `fmt.Errorf("%w: %d %s", ErrNoNetwork, code, detail)`. -/
def noNetwork (code : Nat) (detail : String) : LoadError where
  message := "network record not found: " ++ toString code ++ " " ++ detail

def loadNetwork : LoadM Unit := do
  match ← send env fun _ => env.network with
  | .error e => throw (e.wrap "reading network")
  | .ok none => throw (noNetwork 0 "nil reply")
  | .ok (some reply) =>
    if reply.code ≠ 200 then throw (noNetwork reply.code reply.detail)
    else
      match reply.entry.err with
      | some e => throw (e.wrap "parsing network")
      | none => modify (Loader.setNetwork reply.entry.value)

/-- The node under the public fields of its entry, if it has a recipient. -/
def storeNode (memberRecordID : String) (metadata : EntryMetadata) (node : NodeRecord) :
    LoadM Unit := do
  if metadata.recipient ≠ "" then
    modify (Loader.addNode metadata.recipient
      { node with
        did := metadata.recipient
        recordID := metadata.recordID
        memberRecordID })

/-- A node that cannot be decrypted is kept by its public fields and still reported. -/
def loadNodeEntry (memberRecordID : String) (entry : Entry NodeRecord) :
    LoadM (Option LoadError) := do
  match entry.err with
  | some e =>
    modify Loader.countUndecryptable
    storeNode memberRecordID entry.metadata entry.value
    pure (some e)
  | none =>
    storeNode memberRecordID entry.metadata entry.value.normalizeOwnerDID
    pure none

def loadNodes : LoadM Unit := do
  let entries ← queryRequired env "nodes" fun _ => env.nodes
  modify Loader.clearNodes
  readEntries "decrypting nodes" entries (loadEntries env (loadNodeEntry ""))

/-- An unreadable member is kept too, with its public fields. -/
def storeMember (entry : Entry MemberRecord) : LoadM Unit := do
  if entry.metadata.recipient ≠ "" then
    modify (Loader.addMember entry.metadata.recipient
      { entry.value with
        did := entry.metadata.recipient
        recordID := entry.metadata.recordID })

def loadMembers : LoadM Unit := do
  match ← queryOptional env "querying members" "parsing members" fun _ => env.members with
  | none => pure ()
  | some entries =>
    modify Loader.clearMembers
    readEntries "decrypting members" entries (loadParsedEntries env storeMember storeMember)

structure MemberNodeParentQuery where
  memberRecordID : String
  parentContextID : String
deriving DecidableEq

def memberNodeParentQueries (s : Loader) : List MemberNodeParentQuery :=
  let members := s.memberMap.values.map s.memory.members.cell
  let queries := members.filterMap fun member =>
    if member.recordID = "" then none
    else some ⟨member.recordID, cfg.networkRecordID ++ "/" ++ member.recordID⟩
  queries.insertionSort fun a b => a.parentContextID ≤ b.parentContextID

def loadMemberNodesFrom : List MemberNodeParentQuery → LoadM Unit
  | [] => pure ()
  | query :: rest => do
    match ← queryOptional env ("querying member nodes for " ++ query.memberRecordID)
      ("parsing member nodes for " ++ query.memberRecordID) env.memberNodes with
    | none => loadMemberNodesFrom rest
    | some entries =>
      readEntries ("decrypting member nodes for " ++ query.memberRecordID) entries
        (loadEntries env (loadNodeEntry query.memberRecordID))
      loadMemberNodesFrom rest

def loadMemberNodes : LoadM Unit := do
  loadMemberNodesFrom env (memberNodeParentQueries cfg (← get))

def storeRelay (entry : Entry RelayData) : LoadM Unit := modify (Loader.addRelay entry.value)

def loadRelays : LoadM Unit := do
  let entries ← queryRequired env "relays" fun _ => env.relays
  modify Loader.clearRelays
  readEntries "decrypting relays" entries
    (loadParsedEntries env (fun _ => pure ()) storeRelay)

/-- The newest entry decides. One that cannot be read leaves the cached policy in place. -/
def loadACL : LoadM Unit := do
  match ← queryOptional env "querying ACL policy" "parsing ACL policy results" fun _ => env.acl with
  | none => pure ()
  | some [] => pure ()
  | some (entry :: _) =>
    match entry.err with
    | some e => if ← shouldAbortStateLoad env (some e) then throw (e.wrap "decrypting ACL policy")
    | none => modify (Loader.setACL entry.value)

structure NodeChildRecordQuery where
  protocolPath : String
  parentContextID : String
deriving DecidableEq

def nodeChildRecordQueries (childType : String) (s : Loader) : List NodeChildRecordQuery :=
  let nodes := s.nodeMap.values.map s.memory.nodes.cell
  let queries := nodes.filterMap fun node =>
    if node.recordID = "" then none
    else if node.memberRecordID ≠ "" then
      some ⟨"network/member/node/" ++ childType,
        cfg.networkRecordID ++ "/" ++ node.memberRecordID ++ "/" ++ node.recordID⟩
    else some ⟨"network/node/" ++ childType, cfg.networkRecordID ++ "/" ++ node.recordID⟩
  queries.insertionSort fun a b =>
    if a.parentContextID = b.parentContextID then a.protocolPath ≤ b.protocolPath
    else a.parentContextID ≤ b.parentContextID

/-- What the errors of the child records of one node are wrapped in. -/
def childRecordsContext (stage : String) (query : NodeChildRecordQuery) : String :=
  stage ++ ": " ++ query.protocolPath ++ " under " ++ query.parentContextID

def queryChildRecords (stage : String) (answer : Nat → Except LoadError (Option (DwnReply α)))
    (query : NodeChildRecordQuery) : LoadM (Option (List (Entry α))) :=
  queryOptional env (childRecordsContext stage query ++ ": querying child records")
    (childRecordsContext stage query ++ ": parsing child record results") answer

def loadChildRecords (stage : String) (answer : Nat → Except LoadError (Option (DwnReply α)))
    (handler : Entry α → LoadM (Option LoadError)) (query : NodeChildRecordQuery) : LoadM Unit := do
  match ← queryChildRecords env stage answer query with
  | none => pure ()
  | some entries => readEntries (childRecordsContext stage query) entries (loadEntries env handler)

def loadNodeChildRecords (stage : String) (answer : Nat → Except LoadError (Option (DwnReply α)))
    (handler : Entry α → LoadM (Option LoadError)) : List NodeChildRecordQuery → LoadM Unit
  | [] => pure ()
  | query :: rest => do
    loadChildRecords env stage answer handler query
    loadNodeChildRecords stage answer handler rest

/-- The node a child record belongs to: the one the iteration over the node map meets first among
those with the record's parent. -/
def parentNode (parentID : String) (s : Loader) : Option Nat :=
  let parents := s.nodeMap.values.filter fun p =>
    (s.memory.nodes.cell p).recordID ≠ "" && (s.memory.nodes.cell p).recordID == parentID
  parents[env.pick s.instant % parents.length]?

def loadNodeInfoEntry (entry : Entry NodeInfoData) : LoadM (Option LoadError) := do
  match entry.err with
  | some e => pure (some e)
  | none =>
    match parentNode env entry.metadata.parentID (← get) with
    | some p =>
      modify (Loader.setInfo p entry.value)
      pure none
    | none => pure none

def loadEndpointEntry (entry : Entry EndpointData) : LoadM (Option LoadError) := do
  match entry.err with
  | some e =>
    modify Loader.countUnreadable
    pure (some e)
  | none =>
    match parentNode env entry.metadata.parentID (← get) with
    | some p =>
      modify (Loader.addEndpoint p entry.value)
      pure none
    | none => pure none

/-- The map of the loaded state, which ends the load. -/
def finishLoad : LoadM MapResponse := do
  let s ← get
  let (resp, dropped) := buildMapResponse cfg.platform cfg.networkRecordID cfg.selfDID env.now s.cached
  modify (Loader.countDropped dropped)
  match resp with
  | some resp => pure resp
  | none =>
    throw { message := "self DID " ++ cfg.selfDID.quote ++ " not found in network node records" }

def loadNodeInfo (queries : List NodeChildRecordQuery) : LoadM Unit :=
  loadNodeChildRecords env "loading node info" env.nodeInfo (loadNodeInfoEntry env) queries

/-- The endpoints of the nodes, the last records of a load. -/
def loadEndpoints (queries : List NodeChildRecordQuery) : LoadM Unit :=
  loadNodeChildRecords env "loading endpoints" env.endpoints (loadEndpointEntry env) queries

/-- The steps up to the node info. -/
def loadRecords : LoadM Unit := do
  loadNetwork env
  loadNodes env
  loadMembers env
  loadMemberNodes cfg env
  loadRelays env
  loadACL env
  loadNodeInfo env (nodeChildRecordQueries cfg "nodeInfo" (← get))

def loadSteps : LoadM MapResponse := do
  loadRecords cfg env
  loadEndpoints env (nodeChildRecordQueries cfg "endpoint" (← get))
  finishLoad cfg env

/-- One load of the client, from its first instant on, with the deferred rollback. -/
def loadState (s : Loader) : EStateM.Result LoadError Loader MapResponse :=
  let (previous, s) := s.start.stateSnapshot
  match (loadSteps cfg env).run s with
  | .ok resp s' => .ok resp s'
  | .error e s' => .error e (s'.restoreState previous)

end Load

def failed : EStateM.Result LoadError Loader MapResponse → Bool
  | .ok _ _ => false
  | .error _ _ => true

/-- The state a load ends in, with or without an error. -/
def finalState : EStateM.Result LoadError Loader MapResponse → Loader
  | .ok _ s => s
  | .error _ s => s

/-- A load as a step of the client. -/
def Loader.load (cfg : ClientConfig) (s : Loader) (env : LoadEnv) : Loader :=
  finalState (loadState cfg env s)

/-- A client as `NewDWNClient` makes it, with two empty maps. -/
def newDWNClient (memory : Memory) : Loader where
  client := { members := memory.memberMaps.next, nodes := memory.nodeMaps.next }
  memory :=
    { memory with
      memberMaps := memory.memberMaps.alloc ∅
      nodeMaps := memory.nodeMaps.alloc ∅ }

end Meshd.Control

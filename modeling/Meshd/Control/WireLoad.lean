import Meshd.Control.Decryptor
import Meshd.Control.LoadRules
import Meshd.Framework.Logged

namespace Meshd.Control

open Meshd.Framework Meshd.Dwn.Crypto
open Meshd.Dwn (Codec Exchange)

/-! A load with the requests it sends. What the server says to each of them is data, and so is what
the caches hold when a key is looked up. -/

/-- An error of the client as the load gets it. -/
def LoadError.ofSend : Dwn.SendError → LoadError
  | .connection message canceled deadlineExceeded =>
    { canceled, deadlineExceeded, message := "transport error: sending HTTP request: " ++ message }
  | .transport message => .plain ("transport error: " ++ message)
  | .rpc e => .plain ("JSON-RPC error " ++ toString e.code ++ ": " ++ e.message)
  | .rateLimit e => { rateLimited := true, retryAfter := some e.retryAfter, message := e.error }

/-- A reply, with what becomes of its raw entries. -/
def DwnReply.ofReply {α : Type} (codec : Codec) (entries : String → Except String (List (Entry α)))
    (reply : Dwn.Reply) : DwnReply α where
  code := reply.status.code
  detail := reply.status.detail
  retryAfter := (Dwn.StatusDetail.retryAfterFromStatusDetail codec.caseMap codec.parseDuration
    reply.status.detail).join
  entries :=
    match reply.entries with
    | none => .ok []
    | some raw => (entries raw).mapError fun e => .plain ("unmarshaling entries: " ++ e)

/-! ### The keys of a record -/

/-- An audience record: what its seal opens to, and the public key it advertises. -/
structure SealedAudience where
  unsealed : Except String Bytes
  x : String

/-- The key of an audience record has the length of a key, since its public key is derived. -/
def unsealAudienceRecord (c : Primitives) (rec : SealedAudience) : Except String Bytes := do
  let audiencePriv ← rec.unsealed
  let pub ← x25519PublicKey c audiencePriv
  if Base64.rawURLEncode pub ≠ rec.x then
    .error "unsealed audience private key does not derive the advertised public key"
  else .ok audiencePriv

/-- What a lookup of an audience key meets: the two caches, the answer of the server, the answer to
a second attempt, or the error of a context that ends before it. Of the entries in a reply, those
that the lookup skips are `none`. -/
structure Lookup where
  cachedAudience : Option SealedAudience := none
  cachedKey : Option Bytes := none
  exchange : Exchange
  retry : Exchange
  interrupted : Option LoadError := none
  audiences : String → Except String (List (Option SealedAudience))
  deliveries : String → Except String (List (Option Bytes))

/-- An encrypted record. Its lookups go by the number of requests sent for the record before. -/
structure SealedRecord where
  protocolPath : String
  ciphertext : Bytes
  enc : Encryption
  lookups : Nat → RoleAudienceInfo → Lookup

/-- The key material of a client. -/
structure KeyRing where
  selfDID : String
  anchorTenant : String
  protocolRole : String := ""
  encManager : Option EncryptionKeyManager := none
  grantKeys : List SubtreeDecrypter := []
  hasAudienceSource : Bool := false
  hasSealKeys : Bool := false

/-- Without key material there is no decryptor. -/
def KeyRing.isEmpty (ring : KeyRing) : Bool :=
  ring.encManager.isNone && ring.grantKeys.isEmpty && !ring.hasAudienceSource

section Keys
variable (c : Primitives) (codec : Codec) (ring : KeyRing) {α β : Type}

/-- A computation for the key of a record, with the answers to the requests it has sent. -/
abbrev LookupM := EStateM LoadError (List Exchange)

def wrapping (context : String) (x : LookupM α) : LookupM α := do
  match ← attempt x with
  | .ok a => pure a
  | .error e => throw (e.wrap context)

/-- A query and its answer. Nothing handles a panic: the load ends at it (`WireEnv.loadState`), and
what the model does from there on is not reached. -/
def request (exchange : Exchange) : LookupM (Option Dwn.Reply) := do
  modify (· ++ [exchange])
  match Dwn.recordsQueryWithAuth codec exchange with
  | some result => ofExcept (result.mapError LoadError.ofSend)
  | none => throw (.plain "slice bounds out of range")

/-- The entries of a reply that the lookup does not skip. -/
def lookupEntries (decode : String → Except String (List (Option β))) (reply : Option Dwn.Reply) :
    Except LoadError (List β) :=
  (queryEntries (reply.map (DwnReply.ofReply codec fun raw =>
    (decode raw).map (List.map fun value => { value })))).map (List.filterMap (·.value))

def queryAudience (lookup : Lookup) : LookupM (List SealedAudience) := do
  let reply ← wrapping "querying audience records" (request codec lookup.exchange)
  wrapping "parsing audience query" (ofExcept (lookupEntries codec lookup.audiences reply))

def audienceByKeyID (lookup : Lookup) (info : RoleAudienceInfo) : LookupM SealedAudience :=
  match lookup.cachedAudience with
  | some rec => pure rec
  | none => do
    match ← queryAudience codec lookup with
    | [] =>
      throw (.plain ("no audience record for keyId " ++ info.keyID ++ " (" ++ info.protocol ++ " " ++
        info.rolePath ++ ")"))
    | rec :: _ => pure rec

/-- The query for a delivery, with its one retry. Only the last answer is on record. -/
def queryDeliveryRecordsWithRetry (lookup : Lookup) : LookupM (Option Dwn.Reply) :=
  match Dwn.recordsQueryWithAuth codec lookup.exchange with
  | some (.error (.rateLimit e)) =>
    if max e.retryAfter (second / 4) > 5 * second then request codec lookup.exchange
    else match lookup.interrupted with
      | some ctxErr => do
        modify (· ++ [lookup.exchange])
        throw ctxErr
      | none => request codec lookup.retry
  | _ => request codec lookup.exchange

def queryDeliveryAudiencePrivateKey (lookup : Lookup) (info : RoleAudienceInfo) : LookupM Bytes :=
  if ring.encManager.isNone then throw (.plain "no encryption root available for delivery records")
  else do
    let reply ← wrapping "querying delivery records" (queryDeliveryRecordsWithRetry codec lookup)
    match ← wrapping "parsing delivery query"
      (ofExcept (lookupEntries codec lookup.deliveries reply)) with
    | [] =>
      throw (.plain ("no delivery record for keyId " ++ info.keyID ++ " at " ++ info.rolePath))
    | privateKey :: _ => pure privateKey

namespace SealedRecord

variable (record : SealedRecord)

def audiencePrivateKeyByKeyID (info : RoleAudienceInfo) : LookupM Bytes :=
  if ring.hasSealKeys = false then throw (.plain "no seal keys available")
  else do
    let rec ← audienceByKeyID codec (record.lookups (← get).length info) info
    ofExcept ((unsealAudienceRecord c rec).mapError LoadError.plain)

/-- `get` of the cache of delivered keys. Loads are the only callers, one at a time. -/
def deliveredAudienceKey (info : RoleAudienceInfo) : LookupM Bytes := do
  let lookup := record.lookups (← get).length info
  match lookup.cachedKey with
  | some privateKey => pure privateKey
  | none =>
    let privateKey ← queryDeliveryAudiencePrivateKey codec ring lookup info
    if privateKey = [] then throw (.plain "delivered audience key is empty") else pure privateKey

def routes : Reader (List Exchange) where
  selfDID := ring.selfDID
  anchorTenant := ring.anchorTenant
  protocolRole := ring.protocolRole
  encManager := ring.encManager
  grantKeys := ring.grantKeys
  audienceSource :=
    if ring.hasAudienceSource then some (record.audiencePrivateKeyByKeyID c codec ring) else none
  deliveredAudienceKey := record.deliveredAudienceKey codec ring

/-- The decryption of the record, with the final answers to the requests sent for it. -/
def decrypt : EStateM.Result LoadError (List Exchange) Bytes :=
  ((record.routes c codec ring).decryptEntry c record.ciphertext (some record.enc)
    record.protocolPath).run []

def requests : List Exchange :=
  match record.decrypt c codec ring with
  | .ok _ log => log
  | .error _ log => log

def decrypted : Bool :=
  match record.decrypt c codec ring with
  | .ok _ _ => true
  | .error _ _ => false

end SealedRecord

end Keys

/-! ### The answers -/

/-- What `ParseEntryData` finds in an entry. -/
inductive EntryContent where
  | invalid (err : String)
  | plain (data : Bytes)
  | sealed (record : SealedRecord)

/-- An entry as the server sent it, with the decoding of its data. -/
structure WireEntry (α : Type) where
  metadata : EntryMetadata := {}
  content : EntryContent
  empty : α
  unmarshal : Bytes → α × Option String

/-- The answer to a query, and what its raw entries stand for. -/
structure Channel (α : Type) where
  exchange : Exchange
  entries : String → Except String (List (WireEntry α))

/-- What a load gets from the server and from its client, in the place of a `LoadEnv`. -/
structure WireEnv where
  primitives : Primitives
  codec : Codec
  ring : KeyRing
  done : Nat → Bool
  done_succ : ∀ t, done t = true → done (t + 1) = true
  ctxError : LoadError
  network : Exchange
  networkEntry : Option String → Entry NetworkConfig
  nodes : Channel NodeRecord
  members : Channel MemberRecord
  memberNodes : Nat → Channel NodeRecord
  relays : Channel RelayData
  acl : Channel ACLPolicyData
  nodeInfo : Nat → Channel NodeInfoData
  endpoints : Nat → Channel EndpointData
  pick : Nat → Nat := fun _ => 0
  now : Time := 0

/-- A step of a load at which it sends requests: the read of the network record, a query, or the
decryption of a record. -/
inductive Step where
  | read (exchange : Exchange)
  | query (exchange : Exchange)
  | decrypt (record : SealedRecord)

namespace Step

variable (w : WireEnv)

/-- The final answers to the requests of a step. -/
def requests : Step → List Exchange
  | .read x => [x]
  | .query x => [x]
  | .decrypt record => record.requests w.primitives w.codec w.ring

/-- The client panics on one of the answers. A read does not look into a status. -/
def panics : Step → Bool
  | .read _ => false
  | .query x => (Dwn.recordsQueryWithAuth w.codec x).isNone
  | .decrypt record => (record.requests w.primitives w.codec w.ring).any fun x =>
    (Dwn.recordsQueryWithAuth w.codec x).isNone

end Step

namespace WireEnv

variable (w : WireEnv) {α : Type}

def parse (entry : WireEntry α) (data : Bytes) : Entry α where
  metadata := entry.metadata
  value := (entry.unmarshal data).1
  err := (entry.unmarshal data).2.map LoadError.plain

/-- `ParseEntryData`. -/
def parseEntryData (entry : WireEntry α) : Entry α :=
  match entry.content with
  | .invalid err => { metadata := entry.metadata, value := entry.empty, err := some (.plain err) }
  | .plain data => parse entry data
  | .sealed record =>
    if w.ring.isEmpty then parse entry record.ciphertext
    else match record.decrypt w.primitives w.codec w.ring with
      | .ok plaintext _ => parse entry plaintext
      | .error e _ =>
        { metadata := entry.metadata, value := entry.empty, err := some (e.wrap "decrypting data") }

/-- The step that parsing an entry takes. -/
def parseSteps (entry : WireEntry α) : List Step :=
  match entry.content with
  | .sealed record => if w.ring.isEmpty then [] else [.decrypt record]
  | _ => []

def answer (ch : Channel α) : Except LoadError (Option (DwnReply α)) :=
  ((Dwn.send w.codec ch.exchange).mapError LoadError.ofSend).map <| Option.map <|
    DwnReply.ofReply w.codec fun raw => (ch.entries raw).map (List.map w.parseEntryData)

/-- The entries in the answer. -/
def received (ch : Channel α) : List (WireEntry α) :=
  match Dwn.send w.codec ch.exchange with
  | .ok (some reply) => (reply.entries.bind fun raw => (ch.entries raw).toOption).getD []
  | _ => []

def networkAnswer : Except LoadError (Option NetworkReply) :=
  ((Dwn.send w.codec w.network).mapError LoadError.ofSend).map <| Option.map fun reply =>
    { code := reply.status.code, detail := reply.status.detail, entry := w.networkEntry reply.entry }

def loadEnv : LoadEnv where
  done := w.done
  done_succ := w.done_succ
  ctxError := w.ctxError
  network := w.networkAnswer
  nodes := w.answer w.nodes
  members := w.answer w.members
  memberNodes t := w.answer (w.memberNodes t)
  relays := w.answer w.relays
  acl := w.answer w.acl
  nodeInfo t := w.answer (w.nodeInfo t)
  endpoints t := w.answer (w.endpoints t)
  pick := w.pick
  now := w.now

/-! ### The load, step by step -/

abbrev WireM := LoggedM LoadError Loader Step

/-- The step of a request. A context that is done stops the request before it is sent. -/
def sent (step : Nat → Step) (s : Loader) : List Step :=
  if w.done s.instant then [] else [step s.instant]

def queryRequired (what : String) (ch : Nat → Channel α) : WireM (List (WireEntry α)) := do
  let r ← logging (w.sent fun t => .query (ch t).exchange)
    (Control.queryRequired w.loadEnv what fun t => w.answer (ch t))
  return w.received (ch r.1.instant)

def queryOptional (querying parsing : String) (ch : Nat → Channel α) :
    WireM (Option (List (WireEntry α))) := do
  let r ← logging (w.sent fun t => .query (ch t).exchange)
    (Control.queryOptional w.loadEnv querying parsing fun t => w.answer (ch t))
  return r.2.map fun _ => w.received (ch r.1.instant)

def loadEntries (handler : Entry α → LoadM (Option LoadError)) :
    List (WireEntry α) → WireM (Option LoadError)
  | [] => pure none
  | entry :: rest => do
    lift (modify (Loader.pass entry.metadata))
    record (w.parseSteps entry)
    let err ← lift (handler (w.parseEntryData entry))
    if ← lift (shouldAbortStateLoad w.loadEnv err) then pure err else loadEntries handler rest

def loadParsedEntries (unreadable readable : Entry α → LoadM Unit) :
    List (WireEntry α) → WireM (Option LoadError)
  | [] => pure none
  | entry :: rest => do
    lift (modify (Loader.pass entry.metadata))
    record (w.parseSteps entry)
    match (w.parseEntryData entry).err with
    | some err =>
      if ← lift (shouldAbortStateLoad w.loadEnv (some err)) then pure (some err)
      else
        lift (unreadable (w.parseEntryData entry))
        loadParsedEntries unreadable readable rest
    | none =>
      lift (readable (w.parseEntryData entry))
      loadParsedEntries unreadable readable rest

def readEntries (decrypting : String) (entries : List (WireEntry α))
    (loop : List (WireEntry α) → WireM (Option LoadError)) : WireM Unit := do
  lift (modify (Loader.accept (entries.map (·.metadata))))
  match ← loop entries with
  | some e => throw (e.wrap decrypting)
  | none => pure ()

def loadNetwork : WireM Unit := do
  let _ ← logging (w.sent fun _ => .read w.network) (Control.loadNetwork w.loadEnv)

def loadNodes : WireM Unit := do
  let entries ← w.queryRequired "nodes" fun _ => w.nodes
  lift (modify Loader.clearNodes)
  readEntries "decrypting nodes" entries (w.loadEntries (loadNodeEntry ""))

def loadMembers : WireM Unit := do
  match ← w.queryOptional "querying members" "parsing members" fun _ => w.members with
  | none => pure ()
  | some entries =>
    lift (modify Loader.clearMembers)
    readEntries "decrypting members" entries (w.loadParsedEntries storeMember storeMember)

def loadMemberNodesFrom : List MemberNodeParentQuery → WireM Unit
  | [] => pure ()
  | query :: rest => do
    match ← w.queryOptional ("querying member nodes for " ++ query.memberRecordID)
      ("parsing member nodes for " ++ query.memberRecordID) w.memberNodes with
    | none => loadMemberNodesFrom rest
    | some entries =>
      readEntries ("decrypting member nodes for " ++ query.memberRecordID) entries
        (w.loadEntries (loadNodeEntry query.memberRecordID))
      loadMemberNodesFrom rest

def loadRelays : WireM Unit := do
  let entries ← w.queryRequired "relays" fun _ => w.relays
  lift (modify Loader.clearRelays)
  readEntries "decrypting relays" entries (w.loadParsedEntries (fun _ => pure ()) storeRelay)

def loadACL : WireM Unit := do
  match ← w.queryOptional "querying ACL policy" "parsing ACL policy results" fun _ => w.acl with
  | none => pure ()
  | some [] => pure ()
  | some (entry :: _) =>
    record (w.parseSteps entry)
    match (w.parseEntryData entry).err with
    | some e =>
      if ← lift (shouldAbortStateLoad w.loadEnv (some e)) then throw (e.wrap "decrypting ACL policy")
    | none => lift (modify (Loader.setACL (w.parseEntryData entry).value))

def loadNodeChildRecords (stage : String) (ch : Nat → Channel α)
    (handler : Entry α → LoadM (Option LoadError)) : List NodeChildRecordQuery → WireM Unit
  | [] => pure ()
  | query :: rest => do
    match ← w.queryOptional (childRecordsContext stage query ++ ": querying child records")
      (childRecordsContext stage query ++ ": parsing child record results") ch with
    | none => pure ()
    | some entries =>
      readEntries (childRecordsContext stage query) entries (w.loadEntries handler)
    loadNodeChildRecords stage ch handler rest

def loadNodeInfo (queries : List NodeChildRecordQuery) : WireM Unit :=
  w.loadNodeChildRecords "loading node info" w.nodeInfo (loadNodeInfoEntry w.loadEnv) queries

def loadEndpoints (queries : List NodeChildRecordQuery) : WireM Unit :=
  w.loadNodeChildRecords "loading endpoints" w.endpoints (loadEndpointEntry w.loadEnv) queries

variable (cfg : ClientConfig)

def loadSteps : WireM MapResponse := do
  w.loadNetwork
  w.loadNodes
  w.loadMembers
  w.loadMemberNodesFrom (memberNodeParentQueries cfg (← lift get))
  w.loadRelays
  w.loadACL
  w.loadNodeInfo (nodeChildRecordQueries cfg "nodeInfo" (← lift get))
  w.loadEndpoints (nodeChildRecordQueries cfg "endpoint" (← lift get))
  lift (finishLoad cfg w.loadEnv)

/-- The steps of one load, oldest first, as if none of them panicked. -/
def log (s : Loader) : List Step :=
  match (w.loadSteps cfg).run (s.start.stateSnapshot.2, []) with
  | .ok _ p => p.2
  | .error _ p => p.2

/-- The steps that a load gets to. -/
def steps (s : Loader) : List Step := upTo (Step.panics w) (w.log cfg s)

/-- `LoadState`; `none` is a panic. -/
def loadState (s : Loader) : Option (EStateM.Result LoadError Loader MapResponse) :=
  if (w.log cfg s).any (Step.panics w) then none else some (Control.loadState cfg w.loadEnv s)

/-! ### It is the load of the answers -/

section Queries
variable {env : LoadEnv} {ask : Nat → Except LoadError (Option (DwnReply α))} {s s' : Loader}

/-- What a request comes back with at an instant. -/
def outcome (env : LoadEnv) (ask : Nat → Except LoadError (Option (DwnReply α))) (t : Nat) :
    Except LoadError (Option (DwnReply α)) :=
  if env.done t then .error env.ctxError else ask t

/-- A query as the client returns it. -/
def clientResult : Except LoadError (Option (DwnReply α)) → Except LoadError (Option (DwnReply α))
  | .ok (some reply) =>
    if reply.code = 429 then .error (Control.queryRateLimitError reply) else .ok (some reply)
  | result => result

theorem run_recordsQueryWithAuth : (recordsQueryWithAuth env ask).run s =
    .ok (clientResult (outcome env ask s.instant)) { s with instant := s.instant + 1 } := by
  have hsend : (send env ask).run s =
      .ok (outcome env ask s.instant) { s with instant := s.instant + 1 } := rfl
  rw [recordsQueryWithAuth, EStateM.run_bind, hsend]
  rcases outcome env ask s.instant with e | _ | reply
  · rfl
  · rfl
  · simp only [clientResult]
    split_ifs
    · rfl
    · rfl

theorem ask_of_clientResult {t : Nat} {reply : Option (DwnReply α)}
    (h : clientResult (outcome env ask t) = .ok reply) : ask t = .ok reply := by
  have hout : outcome env ask t = .ok reply := by
    rcases ho : outcome env ask t with e | _ | found
    · rw [ho] at h
      cases h
    · rw [ho] at h
      exact h
    · rw [ho, clientResult] at h
      split_ifs at h
      exact h
  rw [outcome] at hout
  split_ifs at hout
  exact hout

theorem run_throwOrSkip {β : Type} (err : Option LoadError) (e : LoadError) (b : β) :
    (do if ← shouldAbortStateLoad env err then throw e else pure b : LoadM β).run s =
      if env.done s.instant || fatalError err then .error e { s with instant := s.instant + 1 }
      else .ok b { s with instant := s.instant + 1 } := by
  have habort : (shouldAbortStateLoad env err).run s =
      .ok (env.done s.instant || fatalError err) { s with instant := s.instant + 1 } := rfl
  rw [EStateM.run_bind, habort]
  simp only
  split_ifs
  · rfl
  · rfl

theorem queryRequired_ok {what : String} {entries : List (Entry α)}
    (h : (Control.queryRequired env what ask).run s = .ok entries s') :
    ∃ reply, ask s.instant = .ok reply ∧ queryEntries reply = .ok entries := by
  rw [Control.queryRequired, EStateM.run_bind, run_recordsQueryWithAuth] at h
  cases hc : clientResult (outcome env ask s.instant) with
  | error e =>
    rw [hc] at h
    cases h
  | ok reply =>
    rw [hc] at h
    cases hq : queryEntries reply with
    | error e =>
      simp only [hq] at h
      cases h
    | ok found =>
      simp only [hq] at h
      obtain ⟨rfl, -⟩ := EStateM.Result.ok.inj h
      exact ⟨reply, ask_of_clientResult hc, hq⟩

theorem queryOptional_some {querying parsing : String} {entries : List (Entry α)}
    (h : (Control.queryOptional env querying parsing ask).run s = .ok (some entries) s') :
    ∃ reply, ask s.instant = .ok reply ∧ queryEntries reply = .ok entries := by
  have hskip (err : Option LoadError) (e : LoadError) (s₁ : Loader) :
      (do if ← shouldAbortStateLoad env err then throw e else pure none).run s₁ ≠
        .ok (some entries) s' := by
    rw [run_throwOrSkip]
    split_ifs
    · simp
    · simp
  rw [Control.queryOptional, EStateM.run_bind, run_recordsQueryWithAuth] at h
  cases hc : clientResult (outcome env ask s.instant) with
  | error e =>
    rw [hc] at h
    exact absurd h (hskip _ _ _)
  | ok reply =>
    rw [hc] at h
    cases hq : queryEntries reply with
    | error e =>
      simp only [hq] at h
      exact absurd h (hskip _ _ _)
    | ok found =>
      simp only [hq] at h
      obtain ⟨hfound, -⟩ := EStateM.Result.ok.inj h
      exact ⟨reply, ask_of_clientResult hc, hq.trans (congrArg _ (Option.some.inj hfound))⟩

variable {e : LoadError} (hdone : env.done s.instant = false)
  (hask : clientResult (ask s.instant) = .error e)
include hdone hask

theorem queryRequired_error (what : String) :
    ∃ s', (Control.queryRequired env what ask).run s = .error (e.wrap ("querying " ++ what)) s' := by
  have hout : outcome env ask s.instant = ask s.instant := if_neg (by simp [hdone])
  rw [Control.queryRequired, EStateM.run_bind, run_recordsQueryWithAuth, hout, hask]
  exact ⟨_, rfl⟩

theorem queryOptional_error (hfatal : e.rateLimited = true) (querying parsing : String) :
    ∃ s', (Control.queryOptional env querying parsing ask).run s = .error (e.wrap querying) s' := by
  have hout : outcome env ask s.instant = ask s.instant := if_neg (by simp [hdone])
  have habort : fatalError (some e) = true := by simp [fatalError, hfatal]
  rw [Control.queryOptional, EStateM.run_bind, run_recordsQueryWithAuth, hout, hask]
  simp only [run_throwOrSkip, habort, Bool.or_true, if_true]
  exact ⟨_, rfl⟩

end Queries

variable {w cfg}

theorem metadata_parseEntryData (entry : WireEntry α) :
    (w.parseEntryData entry).metadata = entry.metadata := by
  simp only [parseEntryData]
  split
  · rfl
  · rfl
  · split_ifs
    · rfl
    · split
      · rfl
      · rfl

theorem queryEntries_answer {ch : Channel α} {reply : Option (DwnReply α)} {entries : List (Entry α)}
    (hanswer : w.answer ch = .ok reply) (h : queryEntries reply = .ok entries) :
    (w.received ch).map w.parseEntryData = entries := by
  simp only [answer] at hanswer
  cases hsend : Dwn.send w.codec ch.exchange with
  | error e => simp [hsend] at hanswer
  | ok found =>
    simp only [hsend, mapError_ok, ok_map, Except.ok.injEq] at hanswer
    subst hanswer
    cases found with
    | none => simp [queryEntries] at h
    | some found =>
      simp only [Option.map_some, queryEntries] at h
      split_ifs at h
      simp only [received, hsend]
      simp only [DwnReply.ofReply] at h
      cases hraw : found.entries with
      | none =>
        simp only [hraw, Except.ok.injEq] at h
        simp [h]
      | some raw =>
        simp only [hraw, mapError_eq_ok, map_eq_ok] at h
        obtain ⟨sent, hsent, hmap⟩ := h
        simp [hsent, Except.toOption, hmap]

theorem erases_queryRequired (what : String) (ch : Nat → Channel α) :
    Erases (List.map w.parseEntryData) (w.queryRequired what ch)
      (Control.queryRequired w.loadEnv what fun t => w.answer (ch t)) := by
  apply Erases.logging_map
  intro s entries s' h
  obtain ⟨reply, hanswer, hentries⟩ := queryRequired_ok h
  exact queryEntries_answer hanswer hentries

theorem erases_queryOptional (querying parsing : String) (ch : Nat → Channel α) :
    Erases (Option.map (List.map w.parseEntryData)) (w.queryOptional querying parsing ch)
      (Control.queryOptional w.loadEnv querying parsing fun t => w.answer (ch t)) := by
  apply Erases.logging_map
  intro s entries s' h
  cases entries with
  | none => rfl
  | some entries =>
    obtain ⟨reply, hanswer, hentries⟩ := queryOptional_some h
    exact congrArg some (queryEntries_answer hanswer hentries)

theorem erases_loadEntries (handler : Entry α → LoadM (Option LoadError))
    (entries : List (WireEntry α)) :
    Erases id (w.loadEntries handler entries)
      (Control.loadEntries w.loadEnv handler (entries.map w.parseEntryData)) := by
  induction entries with
  | nil => exact .pure rfl
  | cons entry rest ih =>
    simp only [List.map_cons, loadEntries, Control.loadEntries, metadata_parseEntryData]
    apply (Erases.lift _).bind
    intro _
    apply Erases.record_bind
    apply (Erases.lift _).bind
    intro err
    apply (Erases.lift _).bind
    intro abort
    cases abort with
    | true => exact .pure rfl
    | false => exact ih

theorem erases_loadParsedEntries (unreadable readable : Entry α → LoadM Unit)
    (entries : List (WireEntry α)) :
    Erases id (w.loadParsedEntries unreadable readable entries)
      (Control.loadParsedEntries w.loadEnv unreadable readable
        (entries.map w.parseEntryData)) := by
  induction entries with
  | nil => exact .pure rfl
  | cons entry rest ih =>
    simp only [List.map_cons, loadParsedEntries, Control.loadParsedEntries, metadata_parseEntryData]
    apply (Erases.lift _).bind
    intro _
    apply Erases.record_bind
    cases (w.parseEntryData entry).err with
    | none => exact (Erases.lift _).bind fun _ => ih
    | some err =>
      apply (Erases.lift _).bind
      intro abort
      cases abort with
      | true => exact .pure rfl
      | false => exact (Erases.lift _).bind fun _ => ih

theorem erases_readEntries {decrypting : String} {entries : List (WireEntry α)}
    {loop : List (WireEntry α) → WireM (Option LoadError)}
    {loop' : List (Entry α) → LoadM (Option LoadError)}
    (h : Erases id (loop entries) (loop' (entries.map w.parseEntryData))) :
    Erases id (readEntries decrypting entries loop)
      (Control.readEntries decrypting (entries.map w.parseEntryData) loop') := by
  have hmeta : (entries.map w.parseEntryData).map (·.metadata) = entries.map (·.metadata) := by
    simp [metadata_parseEntryData]
  simp only [readEntries, Control.readEntries, hmeta]
  apply (Erases.lift _).bind
  intro _
  apply h.bind
  intro err
  cases err with
  | some e => exact .throw _
  | none => exact .pure rfl

theorem erases_loadNetwork : Erases id w.loadNetwork (Control.loadNetwork w.loadEnv) :=
  Erases.logging_map fun _ _ _ _ => rfl

theorem erases_loadNodes : Erases id w.loadNodes (Control.loadNodes w.loadEnv) := by
  apply (erases_queryRequired _ _).bind
  intro entries
  apply (Erases.lift _).bind
  intro _
  exact erases_readEntries (erases_loadEntries _ entries)

theorem erases_loadMembers : Erases id w.loadMembers (Control.loadMembers w.loadEnv) := by
  apply (erases_queryOptional _ _ _).bind
  intro entries
  cases entries with
  | none => exact .pure rfl
  | some entries =>
    apply (Erases.lift _).bind
    intro _
    exact erases_readEntries (erases_loadParsedEntries _ _ entries)

theorem erases_loadMemberNodesFrom (queries : List MemberNodeParentQuery) :
    Erases id (w.loadMemberNodesFrom queries) (Control.loadMemberNodesFrom w.loadEnv queries) := by
  induction queries with
  | nil => exact .pure rfl
  | cons query rest ih =>
    apply (erases_queryOptional _ _ _).bind
    intro entries
    cases entries with
    | none => exact ih
    | some entries =>
      exact (erases_readEntries (erases_loadEntries _ entries)).bind fun _ => ih

theorem erases_loadRelays : Erases id w.loadRelays (Control.loadRelays w.loadEnv) := by
  apply (erases_queryRequired _ _).bind
  intro entries
  apply (Erases.lift _).bind
  intro _
  exact erases_readEntries (erases_loadParsedEntries _ _ entries)

theorem erases_loadACL : Erases id w.loadACL (Control.loadACL w.loadEnv) := by
  apply (erases_queryOptional _ _ _).bind
  intro entries
  rcases entries with _ | _ | ⟨entry, rest⟩
  · exact .pure rfl
  · exact .pure rfl
  · apply Erases.record_bind
    simp only [Option.map_some, List.map_cons]
    cases (w.parseEntryData entry).err with
    | none => exact Erases.lift _
    | some e =>
      apply (Erases.lift _).bind
      intro abort
      cases abort with
      | true => exact .throw _
      | false => exact .pure rfl

theorem erases_loadNodeChildRecords (stage : String) (ch : Nat → Channel α)
    (handler : Entry α → LoadM (Option LoadError)) (queries : List NodeChildRecordQuery) :
    Erases id (w.loadNodeChildRecords stage ch handler queries)
      (Control.loadNodeChildRecords w.loadEnv stage (fun t => w.answer (ch t)) handler queries) := by
  induction queries with
  | nil => exact .pure rfl
  | cons query rest ih =>
    simp only [loadNodeChildRecords, Control.loadNodeChildRecords, loadChildRecords,
      queryChildRecords, bind_assoc]
    apply (erases_queryOptional _ _ _).bind
    intro entries
    cases entries with
    | none => exact ih
    | some entries => exact (erases_readEntries (erases_loadEntries _ entries)).bind fun _ => ih

/-- The load with its requests is the load of the answers to them. -/
theorem erases_loadSteps : Erases id (w.loadSteps cfg) (Control.loadSteps cfg w.loadEnv) := by
  have hget : Erases id (lift get : WireM Loader) get := Erases.lift _
  simp only [loadSteps, Control.loadSteps, loadRecords, loadMemberNodes, bind_assoc]
  apply (erases_loadNetwork).bind
  intro _
  apply erases_loadNodes.bind
  intro _
  apply erases_loadMembers.bind
  intro _
  apply hget.bind
  intro s₁
  apply (erases_loadMemberNodesFrom _).bind
  intro _
  apply erases_loadRelays.bind
  intro _
  apply erases_loadACL.bind
  intro _
  apply hget.bind
  intro s₂
  apply (erases_loadNodeChildRecords _ _ _ _).bind
  intro _
  apply hget.bind
  intro s₃
  apply (erases_loadNodeChildRecords _ _ _ _).bind
  intro _
  exact Erases.lift _

end WireEnv

end Meshd.Control

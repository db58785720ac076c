import Meshd.Control.LoadState

namespace Meshd.Control

open Meshd.Framework

theorem parentNode_mem {env : LoadEnv} {parentID : String} {s : Loader} {p : Nat}
    (h : parentNode env parentID s = some p) : p ∈ s.nodeMap.values := by
  simp only [parentNode] at h
  exact List.mem_of_mem_filter (List.mem_of_getElem? h)

/-- A property that the clock and the record of replies have no part in. -/
structure Unclocked (I : Loader → Prop) : Prop where
  tick : ∀ s, I s → I { s with instant := s.instant + 1 }
  accept : ∀ s entries, I s → I (s.accept entries)
  pass : ∀ s entry, I s → I (s.pass entry)

section Queries
variable {I : Loader → Prop} {env : LoadEnv} {α : Type}

theorem keeps_tick (h : Unclocked I) : Keeps I tick :=
  Triple.modifyGet h.tick

theorem keeps_shouldAbortStateLoad (h : Unclocked I) (err : Option LoadError) :
    Keeps I (shouldAbortStateLoad env err) :=
  (keeps_tick h).bind fun _ => .pure _

/-- A look at the context at a known instant. -/
theorem triple_shouldAbortAt (h : ∀ s, I s → I { s with instant := s.instant + 1 })
    (err : Option LoadError) (t : Nat) :
    Triple (fun s => I s ∧ s.instant = t) (shouldAbortStateLoad env err)
      (fun abort s => (I s ∧ s.instant = t + 1) ∧ abort = (env.done t || fatalError err))
      (fun _ _ => True) := by
  refine Triple.bind (Q := fun t' s => (I s ∧ s.instant = t + 1) ∧ t' = t) (.modifyGet ?_)
    fun t' => .pure ?_
  · intro s hs
    exact ⟨⟨h s hs.1, congrArg (· + 1) hs.2⟩, hs.2⟩
  · rintro s ⟨hs, rfl⟩
    exact ⟨hs, rfl⟩

theorem triple_send (h : Unclocked I) (answer : Nat → Except LoadError α) :
    Triple I (send env answer) (fun result s => I s ∧ ∀ a, result = .ok a → ∃ t, answer t = .ok a)
      (fun _ => I) := by
  refine Triple.bind (keeps_tick h) fun t => .pure fun s hs => ⟨hs, ?_⟩
  intro a ha
  split_ifs at ha
  exact ⟨t, ha⟩

variable {answer : Nat → Except LoadError (Option (DwnReply α))}

theorem triple_recordsQueryWithAuth (h : Unclocked I) :
    Triple I (recordsQueryWithAuth env answer)
      (fun result s => I s ∧ ∀ reply, result = .ok reply → ∃ t, answer t = .ok reply)
      (fun _ => I) := by
  apply (triple_send h answer).bind
  intro result
  split
  · split_ifs
    · exact .pure fun s hs => ⟨hs.1, by simp⟩
    · exact .pure fun s hs => hs
  · exact .pure fun s hs => hs

/-- What a query gives are the entries of an answer. -/
def Answered (answer : Nat → Except LoadError (Option (DwnReply α))) (entries : List (Entry α)) :
    Prop :=
  ∃ t reply, answer t = .ok reply ∧ queryEntries reply = .ok entries

theorem triple_queryRequired (h : Unclocked I) (what : String) :
    Triple I (queryRequired env what answer) (fun entries s => I s ∧ Answered answer entries)
      (fun _ => I) := by
  apply (triple_recordsQueryWithAuth h).bind
  intro result
  cases result with
  | error e => exact .throw fun s hs => hs.1
  | ok reply =>
    dsimp only
    cases hq : queryEntries reply with
    | error e => exact .throw fun s hs => hs.1
    | ok entries =>
      refine .pure fun s hs => ⟨hs.1, ?_⟩
      obtain ⟨t, ht⟩ := hs.2 reply rfl
      exact ⟨t, reply, ht, hq⟩

theorem keeps_queryRequired (h : Unclocked I) (what : String) :
    Keeps I (queryRequired env what answer) :=
  (triple_queryRequired h what).imp (fun _ hs => hs) (fun _ _ hs => hs.1) (fun _ _ hs => hs)

theorem keeps_throwOrSkip (h : Unclocked I) (err : Option LoadError) (e : LoadError) (a : α) :
    Keeps I (do if ← shouldAbortStateLoad env err then throw e else pure a) := by
  apply (keeps_shouldAbortStateLoad h err).bind
  intro abort
  cases abort with
  | true => exact .throw _
  | false => exact .pure _

theorem triple_queryOptional (h : Unclocked I) (querying parsing : String) :
    Triple I (queryOptional env querying parsing answer)
      (fun result s => I s ∧ ∀ entries, result = some entries → Answered answer entries)
      (fun _ => I) := by
  have hskip (err : Option LoadError) (e : LoadError) : Triple I
      (do if ← shouldAbortStateLoad env err then throw e else pure none)
      (fun result s => I s ∧ ∀ entries, result = some entries → Answered answer entries)
      (fun _ => I) := by
    apply Triple.bind (keeps_shouldAbortStateLoad h err)
    intro abort
    cases abort with
    | true => exact .throw fun s hs => hs
    | false => exact .pure fun s hs => ⟨hs, by simp⟩
  apply (triple_recordsQueryWithAuth h).bind
  intro result
  cases result with
  | error e => exact (hskip _ _).of_pre fun s hs => hs.1
  | ok reply =>
    dsimp only
    cases hq : queryEntries reply with
    | error e => exact (hskip _ _).of_pre fun s hs => hs.1
    | ok entries =>
      refine .pure fun s hs => ⟨hs.1, ?_⟩
      rintro _ ⟨⟩
      obtain ⟨t, ht⟩ := hs.2 reply rfl
      exact ⟨t, reply, ht, hq⟩

theorem keeps_queryOptional (h : Unclocked I) (querying parsing : String) :
    Keeps I (queryOptional env querying parsing answer) :=
  (triple_queryOptional h querying parsing).imp (fun _ hs => hs) (fun _ _ hs => hs.1)
    (fun _ _ hs => hs)

theorem keeps_loadEntries (h : Unclocked I) {handler : Entry α → LoadM (Option LoadError)}
    {entries : List (Entry α)} (hh : ∀ entry ∈ entries, Keeps I (handler entry)) :
    Keeps I (loadEntries env handler entries) := by
  induction entries with
  | nil => exact .pure _
  | cons entry rest ih =>
    apply Keeps.bind (.modify fun s => h.pass s _)
    intro _
    apply (hh entry List.mem_cons_self).bind
    intro err
    apply (keeps_shouldAbortStateLoad h err).bind
    intro abort
    cases abort with
    | true => exact .pure _
    | false => exact ih fun entry hmem => hh entry (List.mem_cons_of_mem _ hmem)

theorem keeps_loadParsedEntries (h : Unclocked I) {unreadable readable : Entry α → LoadM Unit}
    (hu : ∀ entry, Keeps I (unreadable entry)) (hr : ∀ entry, Keeps I (readable entry))
    (entries : List (Entry α)) : Keeps I (loadParsedEntries env unreadable readable entries) := by
  induction entries with
  | nil => exact .pure _
  | cons entry rest ih =>
    apply Keeps.bind (.modify fun s => h.pass s _)
    intro _
    cases entry.err with
    | none => exact (hr entry).bind fun _ => ih
    | some err =>
      apply (keeps_shouldAbortStateLoad h (some err)).bind
      intro abort
      cases abort with
      | true => exact .pure _
      | false => exact (hu entry).bind fun _ => ih

theorem keeps_readEntries (h : Unclocked I) {loop : List (Entry α) → LoadM (Option LoadError)}
    {entries : List (Entry α)} (hl : Keeps I (loop entries)) (decrypting : String) :
    Keeps I (readEntries decrypting entries loop) := by
  apply Keeps.bind (.modify fun s => h.accept s _)
  intro _
  apply hl.bind
  intro err
  cases err with
  | some e => exact .throw _
  | none => exact .pure _

end Queries

/-- An invariant of what the entries of the replies are turned into. -/
structure EntryInvariant (I : Loader → Prop) : Prop where
  countUndecryptable : ∀ s : Loader, I s → I s.countUndecryptable
  countUnreadable : ∀ s : Loader, I s → I s.countUnreadable
  addNode : ∀ s did node, I s → I (s.addNode did node)
  addMember : ∀ s did member, I s → I (s.addMember did member)
  addRelay : ∀ s relay, I s → I (s.addRelay relay)
  setInfo : ∀ s p info, I s → p ∈ s.nodeMap.values → I (s.setInfo p info)
  addEndpoint : ∀ s p ep, I s → p ∈ s.nodeMap.values → I (s.addEndpoint p ep)

/-- An invariant of the steps that follow the clearing of the node map. -/
structure LoadInvariant (I : Loader → Prop) : Prop extends Unclocked I, EntryInvariant I where
  clearMembers : ∀ s : Loader, I s → I s.clearMembers
  clearRelays : ∀ s : Loader, I s → I s.clearRelays
  countDropped : ∀ s n, I s → I (s.countDropped n)

/-- The entries of a reply to one of the queries for nodes. -/
def NodesAnswered (env : LoadEnv) (entries : List (Entry NodeRecord)) : Prop :=
  Answered (fun _ => env.nodes) entries ∨ Answered env.memberNodes entries

/-- The same for the nodes that the load gets, rather than for all that there may be. -/
structure EnvInvariant (env : LoadEnv) (I : Loader → Prop) : Prop extends Unclocked I where
  loadNodeEntry : ∀ entries, NodesAnswered env entries → ∀ entry ∈ entries, ∀ memberRecordID,
    Keeps I (loadNodeEntry memberRecordID entry)
  countUnreadable : ∀ s : Loader, I s → I s.countUnreadable
  addMember : ∀ s did member, I s → I (s.addMember did member)
  addRelay : ∀ s relay, I s → I (s.addRelay relay)
  setInfo : ∀ s p info, I s → p ∈ s.nodeMap.values → I (s.setInfo p info)
  addEndpoint : ∀ s p ep, I s → p ∈ s.nodeMap.values → I (s.addEndpoint p ep)
  clearMembers : ∀ s : Loader, I s → I s.clearMembers
  clearRelays : ∀ s : Loader, I s → I s.clearRelays
  countDropped : ∀ s n, I s → I (s.countDropped n)

section Steps
variable {I J : Loader → Prop} {cfg : ClientConfig} {env : LoadEnv} {α : Type}

theorem keeps_storeNode (h : EntryInvariant I) (memberRecordID : String) (metadata : EntryMetadata)
    (node : NodeRecord) : Keeps I (storeNode memberRecordID metadata node) := by
  simp only [storeNode]
  split_ifs
  · exact .modify fun s => h.addNode s _ _
  · exact .pure _

theorem keeps_loadNodeEntry (h : EntryInvariant I) (memberRecordID : String)
    (entry : Entry NodeRecord) : Keeps I (loadNodeEntry memberRecordID entry) := by
  simp only [loadNodeEntry]
  cases entry.err with
  | some e =>
    apply Keeps.bind (.modify h.countUndecryptable)
    intro _
    exact (keeps_storeNode h _ _ _).bind fun _ => .pure _
  | none => exact (keeps_storeNode h _ _ _).bind fun _ => .pure _

theorem LoadInvariant.envInvariant (h : LoadInvariant I) (env : LoadEnv) : EnvInvariant env I :=
  { h with
    loadNodeEntry := fun _ _ entry _ memberRecordID =>
      keeps_loadNodeEntry h.toEntryInvariant memberRecordID entry }

theorem keeps_storeMember (h : ∀ s did member, I s → I (s.addMember did member))
    (entry : Entry MemberRecord) : Keeps I (storeMember entry) := by
  simp only [storeMember]
  split_ifs
  · exact .modify fun s => h s _ _
  · exact .pure _

theorem keeps_loadMembers (h : EnvInvariant env I) : Keeps I (loadMembers env) := by
  apply (keeps_queryOptional h.toUnclocked _ _).bind
  intro entries
  cases entries with
  | none => exact .pure _
  | some entries =>
    apply Keeps.bind (.modify h.clearMembers)
    intro _
    exact keeps_readEntries h.toUnclocked (keeps_loadParsedEntries h.toUnclocked
      (keeps_storeMember h.addMember) (keeps_storeMember h.addMember) entries) _

theorem keeps_loadMemberNodesFrom (h : EnvInvariant env I) (queries : List MemberNodeParentQuery) :
    Keeps I (loadMemberNodesFrom env queries) := by
  induction queries with
  | nil => exact .pure _
  | cons query rest ih =>
    apply (triple_queryOptional h.toUnclocked _ _).bind
    intro result
    cases result with
    | none => exact ih.of_pre fun s hs => hs.1
    | some entries =>
      refine Triple.of_fact (fun s hs => hs.2 entries rfl) fun hanswered => ?_
      refine Triple.of_pre ?_ fun s hs => hs.1
      refine (keeps_readEntries h.toUnclocked ?_ _).bind fun _ => ih
      exact keeps_loadEntries h.toUnclocked fun entry hmem =>
        h.loadNodeEntry entries (.inr hanswered) entry hmem _

theorem keeps_loadMemberNodes (h : EnvInvariant env I) : Keeps I (loadMemberNodes cfg env) :=
  Keeps.get.bind fun _ => keeps_loadMemberNodesFrom h _

theorem keeps_loadRelays (h : EnvInvariant env I) : Keeps I (loadRelays env) := by
  apply (keeps_queryRequired h.toUnclocked _).bind
  intro entries
  apply Keeps.bind (.modify h.clearRelays)
  intro _
  exact keeps_readEntries h.toUnclocked (keeps_loadParsedEntries h.toUnclocked
    (fun _ => .pure _) (fun _ => .modify fun s => h.addRelay s _) entries) _

/-- The policy of the newest entry, where the load can read it. -/
def newestPolicy (env : LoadEnv) : Option ACLPolicyData :=
  match env.acl with
  | .error _ => none
  | .ok reply =>
    match queryEntries reply with
    | .ok (entry :: _) => if entry.err = none then some entry.value else none
    | _ => none

theorem keeps_loadACL (h : Unclocked I)
    (hset : ∀ s policy, newestPolicy env = some policy → I s → I (s.setACL policy)) :
    Keeps I (loadACL env) := by
  apply (triple_queryOptional h _ _).bind
  intro result
  rcases result with _ | _ | ⟨entry, rest⟩
  · exact .pure fun s hs => hs.1
  · exact .pure fun s hs => hs.1
  · dsimp only
    cases he : entry.err with
    | some e =>
      exact (keeps_throwOrSkip h _ _ _).of_pre fun s hs => hs.1
    | none =>
      refine .modify fun s hs => hset s _ ?_ hs.1
      obtain ⟨t, reply, ha, hq⟩ := hs.2 _ rfl
      simp [newestPolicy, ha, hq, he]

theorem keeps_attach {parentID : String} {f : Nat → Loader → Loader}
    (hf : ∀ s p, I s → p ∈ s.nodeMap.values → I (f p s)) :
    Keeps I (do
      match parentNode env parentID (← get) with
      | some p =>
        modify (f p)
        pure none
      | none => pure none : LoadM (Option LoadError)) := by
  intro s hs
  simp only [EStateM.run_bind, EStateM.run_get]
  cases hp : parentNode env parentID s with
  | none => exact hs
  | some p => exact hf s p hs (parentNode_mem hp)

theorem keeps_loadNodeInfoEntry
    (hset : ∀ s p info, I s → p ∈ s.nodeMap.values → I (s.setInfo p info))
    (entry : Entry NodeInfoData) :
    Keeps I (loadNodeInfoEntry env entry) := by
  simp only [loadNodeInfoEntry]
  cases entry.err with
  | some e => exact .pure _
  | none => exact keeps_attach fun s p => hset s p entry.value

theorem keeps_loadEndpointEntry (hcount : ∀ s : Loader, I s → I s.countUnreadable)
    (hadd : ∀ s p ep, I s → p ∈ s.nodeMap.values → I (s.addEndpoint p ep))
    (entry : Entry EndpointData) :
    Keeps I (loadEndpointEntry env entry) := by
  simp only [loadEndpointEntry]
  cases entry.err with
  | some e => exact Keeps.bind (.modify hcount) fun _ => .pure _
  | none => exact keeps_attach fun s p => hadd s p entry.value

theorem keeps_loadNodeChildRecords (h : Unclocked I) {stage : String}
    {answer : Nat → Except LoadError (Option (DwnReply α))}
    {handler : Entry α → LoadM (Option LoadError)} (hh : ∀ entry, Keeps I (handler entry))
    (queries : List NodeChildRecordQuery) :
    Keeps I (loadNodeChildRecords env stage answer handler queries) := by
  induction queries with
  | nil => exact .pure _
  | cons query rest ih =>
    refine Keeps.bind ?_ fun _ => ih
    apply (keeps_queryOptional h _ _).bind
    intro entries
    cases entries with
    | none => exact .pure _
    | some entries => exact keeps_readEntries h (keeps_loadEntries h fun entry _ => hh entry) _

theorem keeps_finishLoad (h : ∀ s n, I s → I (s.countDropped n)) : Keeps I (finishLoad cfg env) := by
  apply Keeps.get.bind
  intro s
  dsimp only
  apply Keeps.bind (.modify fun s => h s _)
  intro _
  split
  · exact .pure _
  · exact .throw _

/-- The map of a load that ends without an error, and the state it ends in. -/
theorem finishLoad_ok {s s' : Loader} {resp : MapResponse}
    (h : (finishLoad cfg env).run s = .ok resp s') :
    (buildMapResponse cfg.platform cfg.networkRecordID cfg.selfDID env.now s.cached).1 = some resp ∧
      ∃ n, s' = s.countDropped n := by
  simp only [finishLoad, EStateM.run_bind, EStateM.run_get, EStateM.run_modify] at h
  split at h
  · rename_i hresp
    obtain ⟨rfl, rfl⟩ := EStateM.Result.ok.inj h
    exact ⟨hresp, _, rfl⟩
  · cases h

theorem keeps_loadNetwork (h : Unclocked I) (hset : ∀ s network, I s → I (s.setNetwork network)) :
    Keeps I (loadNetwork env) := by
  apply (triple_send h _).bind
  intro result
  rcases result with e | _ | reply
  · exact .throw fun s hs => hs.1
  · exact .throw fun s hs => hs.1
  · dsimp only
    split_ifs
    · exact .throw fun s hs => hs.1
    · cases reply.entry.err with
      | some e => exact .throw fun s hs => hs.1
      | none => exact .modify fun s hs => hset s _ hs.1

theorem triple_loadNodes (hI : Unclocked I) (hJ : EnvInvariant env J)
    (hclear : ∀ s : Loader, I s → J s.clearNodes) :
    Triple I (loadNodes env) (fun _ => J) (fun _ s => I s ∨ J s) := by
  refine Triple.bind ((triple_queryRequired hI _).imp (fun _ hs => hs) (fun _ _ hs => hs)
    (fun _ _ hs => .inl hs)) fun entries => ?_
  refine Triple.of_fact (fun s hs => hs.2) fun hanswered => ?_
  apply Triple.bind (Q := fun _ => J) (.modify fun s hs => hclear s hs.1)
  intro _
  refine (keeps_readEntries hJ.toUnclocked ?_ _).orRight
  exact keeps_loadEntries hJ.toUnclocked fun entry hmem =>
    hJ.loadNodeEntry entries (.inl hanswered) entry hmem ""

theorem triple_loadRecords (hI : Unclocked I) (hJ : EnvInvariant env J)
    (hnetwork : ∀ s network, I s → I (s.setNetwork network))
    (hclear : ∀ s : Loader, I s → J s.clearNodes)
    (hacl : ∀ s policy, newestPolicy env = some policy → J s → J (s.setACL policy)) :
    Triple I (loadRecords cfg env) (fun _ => J) (fun _ s => I s ∨ J s) := by
  apply (keeps_loadNetwork hI hnetwork).orLeft.bind
  intro _
  refine (triple_loadNodes hI hJ hclear).bind fun _ => Keeps.orRight ?_
  apply (keeps_loadMembers hJ).bind
  intro _
  apply (keeps_loadMemberNodes hJ).bind
  intro _
  apply (keeps_loadRelays hJ).bind
  intro _
  apply (keeps_loadACL hJ.toUnclocked hacl).bind
  intro _
  exact Keeps.get.bind fun _ =>
    keeps_loadNodeChildRecords hJ.toUnclocked (keeps_loadNodeInfoEntry hJ.setInfo) _

variable (cfg env) in
/-- The rule for a whole load: `I` up to the clearing of the node map, and `J` from there. -/
theorem triple_loadSteps_env (hI : Unclocked I) (hJ : EnvInvariant env J)
    (hnetwork : ∀ s network, I s → I (s.setNetwork network))
    (hclear : ∀ s : Loader, I s → J s.clearNodes)
    (hacl : ∀ s policy, newestPolicy env = some policy → J s → J (s.setACL policy)) :
    Triple I (loadSteps cfg env) (fun _ => J) (fun _ s => I s ∨ J s) := by
  refine (triple_loadRecords hI hJ hnetwork hclear hacl).bind fun _ => Keeps.orRight ?_
  apply Keeps.get.bind
  intro s
  refine (keeps_loadNodeChildRecords hJ.toUnclocked
    (keeps_loadEndpointEntry hJ.countUnreadable hJ.addEndpoint) _).bind fun _ => ?_
  exact keeps_finishLoad hJ.countDropped

variable (cfg env) in
/-- The rule where `J` does not depend on what the load gets. -/
theorem triple_loadSteps (hI : Unclocked I) (hJ : LoadInvariant J)
    (hnetwork : ∀ s network, I s → I (s.setNetwork network))
    (hclear : ∀ s : Loader, I s → J s.clearNodes)
    (hacl : ∀ s policy, newestPolicy env = some policy → J s → J (s.setACL policy)) :
    Triple I (loadSteps cfg env) (fun _ => J) (fun _ s => I s ∨ J s) :=
  triple_loadSteps_env cfg env hI (hJ.envInvariant env) hnetwork hclear hacl

theorem loadState_ok {s s' : Loader} {resp : MapResponse} :
    loadState cfg env s = .ok resp s' ↔
      (loadSteps cfg env).run s.start.stateSnapshot.2 = .ok resp s' := by
  simp only [loadState]
  cases (loadSteps cfg env).run s.start.stateSnapshot.2 with
  | ok resp s₁ => simp
  | error e s₁ => simp

theorem loadState_error {s s' : Loader} {e : LoadError} :
    loadState cfg env s = .error e s' ↔
      ∃ s₁, (loadSteps cfg env).run s.start.stateSnapshot.2 = .error e s₁ ∧
        s' = s₁.restoreState s.start.stateSnapshot.1 := by
  simp only [loadState]
  cases (loadSteps cfg env).run s.start.stateSnapshot.2 with
  | ok resp s₁ => simp
  | error e s₁ => simp [eq_comm]

end Steps

end Meshd.Control

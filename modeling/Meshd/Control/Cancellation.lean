import Meshd.Control.Rollback

namespace Meshd.Control

open Meshd.Framework

namespace Loader

variable {s s' : Loader} {α : Type}

/-- Every entry of every accepted reply was passed to its handler. -/
def Complete (s : Loader) : Prop := ∀ r ∈ s.replies, r.passed = r.entries

/-- In the reply being read, `rest` is what its loop has yet to pass on. -/
def Reading (rest : List (Entry α)) (s : Loader) : Prop :=
  ∃ r tail, s.replies = r :: tail ∧ r.entries = r.passed ++ rest.map (·.metadata) ∧
    ∀ r ∈ tail, r.passed = r.entries

/-- A reply is left unread only by a load whose context is done. -/
def Settled (env : LoadEnv) (s : Loader) : Prop := Complete s ∨ env.done s.instant = true

theorem Complete.accept (h : s.Complete) (entries : List (Entry α)) :
    Reading entries (s.accept (entries.map (·.metadata))) :=
  ⟨{ entries := entries.map (·.metadata) }, s.replies, rfl, rfl, h⟩

theorem Reading.congr {rest : List (Entry α)} (h : Reading rest s)
    (hr : s'.replies = s.replies) : Reading rest s' := by
  rw [Reading, hr]
  exact h

theorem Reading.pass {entry : Entry α} {rest : List (Entry α)}
    (h : Reading (entry :: rest) s) : Reading rest (s.pass entry.metadata) := by
  obtain ⟨r, tail, hr, hentries, htail⟩ := h
  refine ⟨{ r with passed := r.passed ++ [entry.metadata] }, tail, ?_, ?_, htail⟩
  · simp only [Loader.pass, hr]
  · simp [hentries]

theorem Reading.complete_iff {rest : List (Entry α)} (h : Reading rest s) :
    s.Complete ↔ rest = [] := by
  obtain ⟨r, tail, hr, hentries, htail⟩ := h
  rw [Complete, hr, List.forall_mem_cons, hentries]
  constructor
  · intro hc
    exact List.map_eq_nil_iff.mp (List.append_right_eq_self.mp hc.1.symm)
  · intro heq
    subst heq
    exact ⟨(List.append_nil _).symm, htail⟩

variable {env : LoadEnv}

/-! What the queries find out about the context. -/

theorem triple_tick : Triple (Settled env) tick
    (fun t s => Settled env s ∧ (env.done t = false → Complete s)) (fun _ _ => True) := by
  refine .modifyGet fun s hs => ⟨?_, ?_⟩
  · exact hs.imp id (env.done_succ _)
  · intro hdone
    exact hs.resolve_right (by simp [hdone])

theorem triple_shouldAbortStateLoad (err : Option LoadError) :
    Triple (Settled env) (shouldAbortStateLoad env err) (fun abort s => abort = false → Complete s)
      (fun _ _ => True) := by
  refine triple_tick.bind fun t => .pure fun s hs habort => hs.2 ?_
  exact (Bool.or_eq_false_iff.mp habort).1

theorem triple_throwOrSkip (err : Option LoadError) (e : LoadError) (a : α) :
    Triple (Settled env) (do if ← shouldAbortStateLoad env err then throw e else pure a)
      (fun _ => Complete) (fun _ _ => True) := by
  apply (triple_shouldAbortStateLoad err).bind
  intro abort
  cases abort with
  | true => exact .throw fun _ _ => trivial
  | false => exact .pure fun _ hs => hs rfl

theorem triple_answered (answer : Nat → Except LoadError α) : Triple (Settled env) (send env answer)
    (fun result s => Settled env s ∧ ∀ a, result = .ok a → Complete s) (fun _ _ => True) := by
  refine triple_tick.bind fun t => .pure fun s hs => ⟨hs.1, ?_⟩
  intro a ha
  split_ifs at ha with hdone
  exact hs.2 (Bool.eq_false_iff.mpr hdone)

variable {answer : Nat → Except LoadError (Option (DwnReply α))}

theorem triple_queried : Triple (Settled env) (recordsQueryWithAuth env answer)
    (fun result s => Settled env s ∧ ∀ reply, result = .ok reply → Complete s)
    (fun _ _ => True) := by
  apply (triple_answered answer).bind
  intro result
  split
  · split_ifs
    · exact .pure fun s hs => ⟨hs.1, by simp⟩
    · exact .pure fun s hs => hs
  · exact .pure fun s hs => hs

theorem complete_queryRequired (what : String) : Triple (Settled env)
    (queryRequired env what answer) (fun _ => Complete) (fun _ _ => True) := by
  apply triple_queried.bind
  intro result
  cases result with
  | error e => exact .throw fun _ _ => trivial
  | ok reply =>
    dsimp only
    cases queryEntries reply with
    | error e => exact .throw fun _ _ => trivial
    | ok entries => exact .pure fun s hs => hs.2 reply rfl

/-- A query that a load gets past has seen the context alive. -/
theorem complete_queryOptional (querying parsing : String) : Triple (Settled env)
    (queryOptional env querying parsing answer) (fun _ => Complete) (fun _ _ => True) := by
  apply triple_queried.bind
  intro result
  cases result with
  | error e => exact (triple_throwOrSkip _ _ _).of_pre fun _ hs => hs.1
  | ok reply =>
    dsimp only
    cases queryEntries reply with
    | error e => exact (triple_throwOrSkip _ _ _).of_pre fun _ hs => hs.1
    | ok entries => exact .pure fun s hs => hs.2 reply rfl

/-! The loops over the entries of a reply. -/

/-- A computation that leaves the clock and the record of replies alone. -/
def Quiet (x : LoadM α) : Prop := ∀ replies t, Keeps (fun s => s.replies = replies ∧ s.instant = t) x

theorem quiet_invariant (replies : List AcceptedReply) (t : Nat) :
    EntryInvariant fun s => s.replies = replies ∧ s.instant = t where
  countUndecryptable _ h := h
  countUnreadable _ h := h
  addNode _ _ _ h := h
  addMember _ _ _ h := h
  addRelay _ _ h := h
  setInfo _ _ _ h _ := h
  addEndpoint _ _ _ h _ := h

theorem Quiet.keeps {x : LoadM α} (h : Quiet x) {I : Loader → Prop}
    (hI : ∀ s s', s'.replies = s.replies → s'.instant = s.instant → I s → I s') : Keeps I x := by
  intro s hs
  have hq := h s.replies s.instant
  cases hx : x.run s with
  | ok a s' =>
    have hs' := hq.ok ⟨rfl, rfl⟩ hx
    exact hI s s' hs'.1 hs'.2 hs
  | error e s' =>
    have hs' := hq.error ⟨rfl, rfl⟩ hx
    exact hI s s' hs'.1 hs'.2 hs

theorem complete_loadParsedEntries {unreadable readable : Entry α → LoadM Unit}
    (hu : ∀ entry, Quiet (unreadable entry)) (hr : ∀ entry, Quiet (readable entry))
    (entries : List (Entry α)) :
    Triple (Reading entries) (loadParsedEntries env unreadable readable entries)
      (fun err s => err = none → Complete s) (fun _ _ => True) := by
  induction entries with
  | nil => exact .pure fun s hs _ => hs.complete_iff.mpr rfl
  | cons entry rest ih =>
    have hquiet {x : LoadM Unit} (hx : Quiet x) :=
      (hx.keeps (I := Reading rest) fun _ _ hr _ hs => hs.congr hr).orFail
    refine Triple.bind (Q := fun _ => Reading rest)
      (.modify fun s hs => Reading.pass hs) fun _ => ?_
    cases entry.err with
    | none => exact (hquiet (hr entry)).bind fun _ => ih
    | some err =>
      refine Triple.bind (Q := fun _ => Reading rest) ?_ fun abort => ?_
      · exact Triple.bind (.modifyGet fun _ hs => Reading.congr hs rfl) fun _ => .pure fun _ hs => hs
      · cases abort with
        | true => exact .pure fun _ _ herr => by cases herr
        | false => exact (hquiet (hu entry)).bind fun _ => ih

/-- The context is done at the check after one of `n` entries that another one follows. -/
def Interrupted (env : LoadEnv) (t n : Nat) : Prop := ∃ i, i + 1 < n ∧ env.done (t + i) = true

theorem interrupted_of_done {t n : Nat} (h : env.done t = true) :
    Interrupted env t (n + 1) ↔ n ≠ 0 := by
  constructor
  · intro h
    obtain ⟨i, hi, -⟩ := h
    omega
  · intro hn
    exact ⟨0, by omega, h⟩

theorem interrupted_succ {t n : Nat} (h : env.done t = false) :
    Interrupted env t (n + 1) ↔ Interrupted env (t + 1) n := by
  constructor
  · intro h
    obtain ⟨i, hi, hdone⟩ := h
    cases i with
    | zero =>
      rw [Nat.add_zero, h] at hdone
      cases hdone
    | succ i => exact ⟨i, by omega, by rw [← hdone]; congr 1; omega⟩
  · intro h
    obtain ⟨i, hi, hdone⟩ := h
    exact ⟨i + 1, by omega, by rw [← hdone]; congr 1; omega⟩

/-- The loop that a done context breaks off: what it leaves unread, it leaves without an error. -/
theorem complete_loadEntries {handler : Entry α → LoadM (Option LoadError)}
    (hh : ∀ entry, Quiet (handler entry)) (entries : List (Entry α)) (t : Nat) :
    Triple (fun s => Reading entries s ∧ s.instant = t)
      (loadEntries env handler entries)
      (fun err s => err = none →
        (Complete s ↔ ¬ Interrupted env t entries.length) ∧ Settled env s)
      (fun _ _ => True) := by
  induction entries generalizing t with
  | nil =>
    refine .pure fun s hs _ => ?_
    have hc : Complete s := hs.1.complete_iff.mpr rfl
    have hn : ¬ Interrupted env t ([] : List (Entry α)).length := by
      intro h
      obtain ⟨i, hi, -⟩ := h
      exact absurd hi (Nat.not_lt_zero _)
    exact ⟨iff_of_true hc hn, .inl hc⟩
  | cons entry rest ih =>
    refine Triple.bind (Q := fun _ s => Reading rest s ∧ s.instant = t)
      (.modify fun s hs => ⟨hs.1.pass, hs.2⟩) fun _ => ?_
    refine Triple.bind ((hh entry).keeps ?_).orFail fun err => ?_
    · intro s s' hr hi hs
      exact ⟨hs.1.congr hr, hi.trans hs.2⟩
    apply (triple_shouldAbortAt (fun _ hs => Reading.congr hs rfl) err t).bind
    intro abort
    cases abort with
    | true =>
      refine .pure fun s hs herr => ?_
      subst herr
      have hdone : env.done t = true := by simpa [fatalError] using hs.2.symm
      rw [hs.1.1.complete_iff, List.length_cons, interrupted_of_done hdone]
      refine ⟨by simp, .inr ?_⟩
      rw [hs.1.2]
      exact env.done_succ t hdone
    | false =>
      intro s hs
      have hdone : env.done t = false := (Bool.or_eq_false_iff.mp hs.2.symm).1
      rw [List.length_cons, interrupted_succ hdone]
      exact ih (t + 1) s hs.1

theorem complete_readEntries {handler : Entry α → LoadM (Option LoadError)}
    (hh : ∀ entry, Quiet (handler entry)) (entries : List (Entry α)) (decrypting : String)
    (t : Nat) :
    Triple (fun s => Complete s ∧ s.instant = t)
      (readEntries decrypting entries (loadEntries env handler))
      (fun _ s => (Complete s ↔ ¬ Interrupted env t entries.length) ∧ Settled env s)
      (fun _ _ => True) := by
  refine Triple.bind (Q := fun _ s => Reading entries s ∧ s.instant = t)
    (.modify fun s hs => ⟨hs.1.accept _, hs.2⟩) fun _ => ?_
  apply (complete_loadEntries hh entries t).bind
  intro err
  cases err with
  | some e => exact .throw fun _ _ => trivial
  | none => exact .pure fun _ hs => hs rfl

theorem settled_readEntries {handler : Entry α → LoadM (Option LoadError)}
    (hh : ∀ entry, Quiet (handler entry)) (entries : List (Entry α)) (decrypting : String) :
    Triple Complete (readEntries decrypting entries (loadEntries env handler))
      (fun _ => Settled env) (fun _ _ => True) := by
  intro s hs
  exact ((complete_readEntries hh entries decrypting s.instant).imp (fun _ h => h)
    (fun _ _ h => h.2) (fun _ _ h => h)) s ⟨hs, rfl⟩

theorem complete_readParsedEntries {unreadable readable : Entry α → LoadM Unit}
    (hu : ∀ entry, Quiet (unreadable entry)) (hr : ∀ entry, Quiet (readable entry))
    (entries : List (Entry α)) (decrypting : String) :
    Triple Complete (readEntries decrypting entries (loadParsedEntries env unreadable readable))
      (fun _ => Settled env) (fun _ _ => True) := by
  apply Triple.bind (Q := fun _ => Reading entries) (.modify fun s hs => hs.accept _)
  intro _
  apply (complete_loadParsedEntries hu hr entries).bind
  intro err
  cases err with
  | some e => exact .throw fun _ _ => trivial
  | none => exact .pure fun _ hs => .inl (hs rfl)

/-! The steps of a load. -/

variable {cfg : ClientConfig}

theorem settled_loadNetwork :
    Triple (Settled env) (loadNetwork env) (fun _ => Settled env) (fun _ _ => True) := by
  apply (triple_answered _).bind
  intro result
  rcases result with e | _ | reply
  · exact .throw fun _ _ => trivial
  · exact .throw fun _ _ => trivial
  · dsimp only
    split_ifs
    · exact .throw fun _ _ => trivial
    · cases reply.entry.err with
      | some e => exact .throw fun _ _ => trivial
      | none => exact .modify fun _ hs => hs.1

theorem settled_loadNodes :
    Triple (Settled env) (loadNodes env) (fun _ => Settled env) (fun _ _ => True) := by
  apply (complete_queryRequired _).bind
  intro entries
  refine Triple.bind (Q := fun _ => Complete) (.modify fun _ hs => hs) fun _ => ?_
  refine settled_readEntries (fun entry replies t => ?_) entries _
  exact keeps_loadNodeEntry (quiet_invariant replies t) "" entry

theorem settled_loadMembers :
    Triple (Settled env) (loadMembers env) (fun _ => Settled env) (fun _ _ => True) := by
  have hstore (entry : Entry MemberRecord) : Quiet (storeMember entry) :=
    fun replies t => keeps_storeMember (quiet_invariant replies t).addMember entry
  apply (complete_queryOptional _ _).bind
  intro entries
  cases entries with
  | none => exact .pure fun _ hs => .inl hs
  | some entries =>
    refine Triple.bind (Q := fun _ => Complete) (.modify fun _ hs => hs) fun _ => ?_
    exact complete_readParsedEntries hstore hstore entries _

theorem settled_loadMemberNodesFrom (queries : List MemberNodeParentQuery) :
    Triple (Settled env) (loadMemberNodesFrom env queries) (fun _ => Settled env)
      (fun _ _ => True) := by
  induction queries with
  | nil => exact .pure fun _ hs => hs
  | cons query rest ih =>
    apply (complete_queryOptional _ _).bind
    intro entries
    cases entries with
    | none => exact ih.of_pre fun _ hs => .inl hs
    | some entries =>
      refine (settled_readEntries (fun entry replies t => ?_) entries _).bind fun _ => ih
      exact keeps_loadNodeEntry (quiet_invariant replies t) _ entry

theorem settled_loadRelays :
    Triple (Settled env) (loadRelays env) (fun _ => Settled env) (fun _ _ => True) := by
  apply (complete_queryRequired _).bind
  intro entries
  refine Triple.bind (Q := fun _ => Complete) (.modify fun _ hs => hs) fun _ => ?_
  refine complete_readParsedEntries (fun _ _ _ => .pure _) (fun _ replies t => ?_) entries _
  exact .modify fun s => (quiet_invariant replies t).addRelay s _

theorem complete_loadACL :
    Triple (Settled env) (loadACL env) (fun _ => Complete) (fun _ _ => True) := by
  apply (complete_queryOptional _ _).bind
  intro entries
  rcases entries with _ | _ | ⟨entry, rest⟩
  · exact .pure fun _ hs => hs
  · exact .pure fun _ hs => hs
  · dsimp only
    cases entry.err with
    | some e => exact (triple_throwOrSkip _ _ _).of_pre fun _ hs => .inl hs
    | none => exact .modify fun _ hs => hs

theorem settled_loadNodeChildRecords {handler : Entry α → LoadM (Option LoadError)}
    (hh : ∀ entry, Quiet (handler entry)) (stage : String) (queries : List NodeChildRecordQuery) :
    Triple (Settled env) (loadNodeChildRecords env stage answer handler queries)
      (fun _ => Settled env) (fun _ _ => True) := by
  induction queries with
  | nil => exact .pure fun _ hs => hs
  | cons query rest ih =>
    refine Triple.bind ?_ fun _ => ih
    apply (complete_queryOptional _ _).bind
    intro entries
    cases entries with
    | none => exact .pure fun _ hs => .inl hs
    | some entries => exact settled_readEntries hh entries _

/-- A node of the map has a record, under which child records are looked for. -/
def HasRecord (s : Loader) : Prop := ∃ p ∈ s.nodeMap.values, (s.memory.nodes.cell p).recordID ≠ ""

theorem nodeChildRecordQueries_eq_nil (childType : String) (s : Loader) :
    nodeChildRecordQueries cfg childType s = [] ↔ ¬ s.HasRecord := by
  rw [nodeChildRecordQueries, ← List.length_eq_zero_iff, List.length_insertionSort,
    List.length_eq_zero_iff, List.filterMap_eq_nil_iff, HasRecord]
  constructor
  · intro h h
    obtain ⟨p, hp, hrecord⟩ := h
    have hnone := h _ (List.mem_map_of_mem hp)
    rw [if_neg hrecord] at hnone
    split_ifs at hnone
  · intro h node hnode
    obtain ⟨p, hp, rfl⟩ := List.mem_map.mp hnode
    rw [if_pos]
    by_contra hrecord
    exact h ⟨p, hp, hrecord⟩

theorem HasRecord.setInfo (h : s.HasRecord) (q : Nat) (info : NodeInfoData) :
    (s.setInfo q info).HasRecord := by
  obtain ⟨p, hp, hrecord⟩ := h
  refine ⟨p, hp, ?_⟩
  by_cases hq : p = q
  · subst hq
    simpa [Loader.setInfo, updateNode] using hrecord
  · simpa [Loader.setInfo, updateNode, Heap.set_cell_of_ne, hq] using hrecord

theorem hasRecord_unclocked : Unclocked HasRecord where
  tick _ h := h
  accept _ _ h := h
  pass _ _ h := h

theorem hasRecord_loadNodeInfo (queries : List NodeChildRecordQuery) :
    Keeps HasRecord (loadNodeInfo env queries) :=
  keeps_loadNodeChildRecords hasRecord_unclocked
    (keeps_loadNodeInfoEntry fun _ p info h _ => h.setInfo p info) queries

theorem settled_loadNodeInfo (queries : List NodeChildRecordQuery) :
    Triple (Settled env) (loadNodeInfo env queries) (fun _ => Settled env) (fun _ _ => True) :=
  settled_loadNodeChildRecords (fun entry replies t =>
    keeps_loadNodeInfoEntry (quiet_invariant replies t).setInfo entry) _ queries

theorem quiet_loadEndpointEntry (entry : Entry EndpointData) : Quiet (loadEndpointEntry env entry) :=
  fun replies t => keeps_loadEndpointEntry (quiet_invariant replies t).countUnreadable
    (quiet_invariant replies t).addEndpoint entry

theorem settled_loadRecords : Triple (Settled env) (loadRecords cfg env)
    (fun _ s => Settled env s ∧ (¬ s.HasRecord → Complete s)) (fun _ _ => True) := by
  apply settled_loadNetwork.bind
  intro _
  apply settled_loadNodes.bind
  intro _
  apply settled_loadMembers.bind
  intro _
  refine Triple.bind (Q := fun _ => Settled env) ?_ fun _ => ?_
  · exact Keeps.get.orFail.bind fun _ => settled_loadMemberNodesFrom _
  apply settled_loadRelays.bind
  intro _
  apply complete_loadACL.bind
  intro _
  apply Triple.bind (Q := fun s₀ s => Complete s ∧ s = s₀) (.get fun s hs => ⟨hs, rfl⟩)
  intro s₀
  by_cases hrecord : s₀.HasRecord
  · refine ((settled_loadNodeInfo _).and (hasRecord_loadNodeInfo _).orFail).imp ?_ ?_ ?_
    · intro s h
      obtain ⟨hs, rfl⟩ := h
      exact ⟨.inl hs, hrecord⟩
    · intro _ s hs
      exact ⟨hs.1, fun hnone => absurd hs.2 hnone⟩
    · exact fun _ _ _ => trivial
  · -- Without a record there is no query, and no reply that could be left unread.
    rw [(nodeChildRecordQueries_eq_nil _ _).mpr hrecord]
    exact .pure fun s hs => ⟨.inl hs.1, fun _ => hs.1⟩

theorem loadNodeChildRecords_concat {stage : String}
    {handler : Entry α → LoadM (Option LoadError)} (queries : List NodeChildRecordQuery)
    (query : NodeChildRecordQuery) :
    loadNodeChildRecords env stage answer handler (queries ++ [query]) = (do
      loadNodeChildRecords env stage answer handler queries
      loadChildRecords env stage answer handler query) := by
  induction queries with
  | nil => simp [loadNodeChildRecords]
  | cons first rest ih => simp [loadNodeChildRecords, ih]

/-- The load accepts `entries` as the last of its endpoint replies, and reads them from `s'` on. -/
def LastEndpointReply (cfg : ClientConfig) (env : LoadEnv) (s s' : Loader)
    (entries : List (Entry EndpointData)) : Prop :=
  ∃ s₁ s₂ queries query,
    (loadRecords cfg env).run s.start.stateSnapshot.2 = .ok () s₁ ∧
    nodeChildRecordQueries cfg "endpoint" s₁ = queries ++ [query] ∧
    (loadEndpoints env queries).run s₁ = .ok () s₂ ∧
    (queryChildRecords env "loading endpoints" env.endpoints query).run s₂ = .ok (some entries) s'

/-- There is one last reply at most. -/
theorem lastEndpointReply_iff {s₁ s₂ s₃ : Loader} {queries : List NodeChildRecordQuery}
    {query : NodeChildRecordQuery} {result : Option (List (Entry EndpointData))}
    (hrecords : (loadRecords cfg env).run s.start.stateSnapshot.2 = .ok () s₁)
    (hq : nodeChildRecordQueries cfg "endpoint" s₁ = queries ++ [query])
    (hinit : (loadEndpoints env queries).run s₁ = .ok () s₂)
    (hquery : (queryChildRecords env "loading endpoints" env.endpoints query).run s₂ =
      .ok result s₃) (s' : Loader) (entries : List (Entry EndpointData)) :
    LastEndpointReply cfg env s s' entries ↔ result = some entries ∧ s' = s₃ := by
  constructor
  · intro h
    obtain ⟨_, _, queries', query', hrecords', hq', hinit', hquery'⟩ := h
    cases hrecords.symm.trans hrecords'
    obtain ⟨rfl, hlast⟩ := List.append_inj' (hq.symm.trans hq') rfl
    cases hlast
    cases hinit.symm.trans hinit'
    cases hquery.symm.trans hquery'
    exact ⟨rfl, rfl⟩
  · intro h
    obtain ⟨rfl, rfl⟩ := h
    exact ⟨s₁, s₂, queries, query, hrecords, hq, hinit, hquery⟩

/-- A load that succeeds has passed on every entry it was given, unless its context was done while
it read the last endpoint reply. -/
theorem loadState_complete_iff {resp : MapResponse} (hok : loadState cfg env s = .ok resp s') :
    Complete s' ↔ ∀ s₂ entries, LastEndpointReply cfg env s s₂ entries →
      ¬ Interrupted env s₂.instant entries.length := by
  obtain ⟨_, s₁, hrecords, hsteps⟩ := run_bind_ok.mp (loadState_ok.mp hok)
  obtain ⟨_, _, ⟨⟩, hsteps⟩ := run_bind_ok.mp hsteps
  obtain ⟨_, s₃, hendpoints, hfinish⟩ := run_bind_ok.mp hsteps
  obtain ⟨-, n, rfl⟩ := finishLoad_ok hfinish
  have hstart : Settled env s.start.stateSnapshot.2 := .inl fun _ hr => by cases hr
  have hsettled := settled_loadRecords.ok hstart hrecords
  rcases List.eq_nil_or_concat (nodeChildRecordQueries cfg "endpoint" s₁) with
    hq | ⟨queries, query, hq⟩
  · rw [hq] at hendpoints
    cases hendpoints
    have hnone : ¬ s₁.HasRecord := (nodeChildRecordQueries_eq_nil _ _).mp hq
    apply iff_of_true (hsettled.2 hnone)
    intro s₂ entries h
    obtain ⟨_, _, queries, query, hrecords', hq', -⟩ := h
    cases hrecords.symm.trans hrecords'
    exact absurd (hq'.symm.trans hq) (by simp)
  · rw [List.concat_eq_append] at hq
    rw [hq, loadEndpoints, loadNodeChildRecords_concat] at hendpoints
    obtain ⟨_, s₂, hinit, hlast⟩ := run_bind_ok.mp hendpoints
    obtain ⟨result, s₄, hquery, hread⟩ := run_bind_ok.mp hlast
    have hcomplete : Complete s₄ := by
      have hs₂ := (settled_loadNodeChildRecords quiet_loadEndpointEntry _ _).ok hsettled.1 hinit
      exact (complete_queryOptional _ _).ok hs₂ hquery
    have hreply := lastEndpointReply_iff hrecords hq hinit hquery
    cases result with
    | none =>
      cases hread
      refine iff_of_true hcomplete fun s' entries h => ?_
      cases ((hreply s' entries).mp h).1
    | some entries =>
      have hiff := ((complete_readEntries quiet_loadEndpointEntry entries _ _).ok
        ⟨hcomplete, rfl⟩ hread).1
      refine hiff.trans ⟨?_, fun h => h s₄ entries ((hreply _ _).mpr ⟨rfl, rfl⟩)⟩
      rintro hnot s' entries' h
      obtain ⟨⟨⟩, rfl⟩ := (hreply s' entries').mp h
      exact hnot

end Loader

/-- The network of one node, which has two endpoint records. -/
def endpointsEnv : LoadEnv :=
  { homeEnv with
    endpoints := fun _ => replyWith
      [{ metadata := ⟨"bafy-lan", "bafy-alice", ""⟩,
         value := { localEndpoints := ["192.168.1.2:41641"] } },
       { metadata := ⟨"bafy-wan", "bafy-alice", ""⟩,
         value := { localEndpoints := ["203.0.113.7:41641"] } }] }

theorem endpointsEnv_complete :
    ∃ resp s', loadState homeConfig endpointsEnv (newDWNClient emptyMemory) = .ok resp s' ∧
      s'.Complete := by
  have hfails : failed (loadState homeConfig endpointsEnv (newDWNClient emptyMemory)) = false := by
    decide +kernel
  cases hl : loadState homeConfig endpointsEnv (newDWNClient emptyMemory) with
  | ok resp s' =>
    refine ⟨resp, s', rfl, (Loader.loadState_complete_iff hl).mpr ?_⟩
    rintro s₂ entries - ⟨i, -, hdone⟩
    cases hdone
  | error e s' =>
    rw [hl] at hfails
    cases hfails

/-- The context is done at the check after the first of the two. -/
def cancelledEnv : LoadEnv :=
  { endpointsEnv with
    done := fun t => decide (8 ≤ t)
    done_succ := fun _ h => decide_eq_true (Nat.le_succ_of_le (of_decide_eq_true h)) }

/-- The endpoints of this node in the map of a load, if it succeeds. -/
def ownEndpoints : EStateM.Result LoadError Loader MapResponse → Option (List String)
  | .ok resp _ => some resp.node.endpoints
  | .error _ _ => none

/-- The map of a load that is cancelled among the endpoints: the load succeeds, and the second
endpoint of its last reply is missing. -/
theorem cancelledEnv_truncated :
    ∃ resp s', loadState homeConfig cancelledEnv (newDWNClient emptyMemory) = .ok resp s' ∧
      resp.node.endpoints = ["192.168.1.2:41641"] ∧ ¬ s'.Complete := by
  have hown : ownEndpoints (loadState homeConfig cancelledEnv (newDWNClient emptyMemory)) =
      some ["192.168.1.2:41641"] := by decide +kernel
  have hreplies : (finalState (loadState homeConfig cancelledEnv
      (newDWNClient emptyMemory))).replies.head? =
      some ⟨[⟨"bafy-lan", "bafy-alice", ""⟩, ⟨"bafy-wan", "bafy-alice", ""⟩],
        [⟨"bafy-lan", "bafy-alice", ""⟩]⟩ := by decide +kernel
  cases hl : loadState homeConfig cancelledEnv (newDWNClient emptyMemory) with
  | ok resp s' =>
    rw [hl] at hown hreplies
    refine ⟨resp, s', rfl, Option.some.inj hown, fun hcomplete => ?_⟩
    exact absurd (hcomplete _ (List.mem_of_head? hreplies)) (by decide)
  | error e s' =>
    rw [hl] at hown
    cases hown

end Meshd.Control

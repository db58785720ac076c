import Meshd.Control.MapNodes
import Meshd.Control.Rollback

namespace Meshd.Control

open Meshd.Framework

section Replies
variable {α : Type}

/-- The readable child records of a node, in the order they were returned. -/
def readableOf (recordID : String) (entries : List (Entry α)) : List α :=
  entries.filterMap fun entry =>
    if entry.err = none ∧ recordID ≠ "" ∧ entry.metadata.parentID = recordID then some entry.value
    else none

theorem readableOf_append (recordID : String) (entries entries' : List (Entry α)) :
    readableOf recordID (entries ++ entries') =
      readableOf recordID entries ++ readableOf recordID entries' :=
  List.filterMap_append ..

/-- The child records that the queries from the instant `t` on return to a load with a live context,
and the instant after them. A query looks at the context once, and once more if it fails; the loop
over a reply looks at it once an entry. -/
def childReplies (answer : Nat → Except LoadError (Option (DwnReply α))) (t : Nat) :
    List NodeChildRecordQuery → List (Entry α) × Nat
  | [] => ([], t)
  | _ :: rest =>
    match answer t >>= queryEntries with
    | .ok entries =>
      let later := childReplies answer (t + 1 + entries.length) rest
      (entries ++ later.1, later.2)
    | .error _ => childReplies answer (t + 2) rest

/-- What the readable child records among the entries make of their node. -/
def collect (upd : α → NodeRecord → NodeRecord) (rec : NodeRecord) (entries : List (Entry α)) :
    NodeRecord :=
  (readableOf rec.recordID entries).foldl (fun rec a => upd a rec) rec

/-- A child record leaves the IDs of its node alone. -/
def KeepsIDs (upd : α → NodeRecord → NodeRecord) : Prop :=
  ∀ a rec, (upd a rec).recordID = rec.recordID ∧ (upd a rec).memberRecordID = rec.memberRecordID

variable {upd : α → NodeRecord → NodeRecord}

theorem KeepsIDs.foldl_recordID (h : KeepsIDs upd) (as : List α) (rec : NodeRecord) :
    (as.foldl (fun rec a => upd a rec) rec).recordID = rec.recordID := by
  induction as generalizing rec with
  | nil => rfl
  | cons a as ih => rw [List.foldl_cons, ih, (h a rec).1]

theorem collect_append (h : KeepsIDs upd) (rec : NodeRecord) (entries entries' : List (Entry α)) :
    collect upd rec (entries ++ entries') = collect upd (collect upd rec entries) entries' := by
  simp only [collect, readableOf_append, List.foldl_append, h.foldl_recordID]

end Replies

/-- The node at `p` is `rec`, and no other node of the map has its record ID. -/
structure HoldsNode (p : Nat) (rec : NodeRecord) (s : Loader) : Prop where
  mem : p ∈ s.nodeMap.values
  cell : s.memory.nodes.cell p = rec
  sole : ∀ q ∈ s.nodeMap.values, (s.memory.nodes.cell q).recordID = rec.recordID → q = p

section Attach
variable {env : LoadEnv} {s : Loader} {p q : Nat} {rec : NodeRecord} {parentID : String}

theorem parentNode_eq_some (h : parentNode env parentID s = some q) :
    q ∈ s.nodeMap.values ∧ (s.memory.nodes.cell q).recordID ≠ "" ∧
      (s.memory.nodes.cell q).recordID = parentID := by
  simp only [parentNode] at h
  have hq := List.mem_filter.mp (List.mem_of_getElem? h)
  simpa using hq

/-- The records of a node are attached to it, whatever the iteration over the map begins with. -/
theorem HoldsNode.parentNode (h : HoldsNode p rec s) (hid : rec.recordID ≠ "") :
    parentNode env rec.recordID s = some p := by
  have hparent : p ∈ s.nodeMap.values.filter fun q =>
      (s.memory.nodes.cell q).recordID ≠ "" && (s.memory.nodes.cell q).recordID == rec.recordID := by
    simp [h.mem, h.cell, hid]
  cases hpick : Control.parentNode env rec.recordID s with
  | some q =>
    obtain ⟨hq, -, hrec⟩ := parentNode_eq_some hpick
    rw [h.sole q hq hrec]
  | none =>
    simp only [Control.parentNode] at hpick
    have hlt := Nat.mod_lt (env.pick s.instant) (List.length_pos_of_mem hparent)
    exact absurd (List.getElem?_eq_none_iff.mp hpick) (not_le.mpr hlt)

/-- A write to a node that keeps its IDs. -/
theorem HoldsNode.updateNode (h : HoldsNode p rec s) {f : NodeRecord → NodeRecord}
    (hf : ∀ rec, (f rec).recordID = rec.recordID) (q : Nat) :
    HoldsNode p (if q = p then f rec else rec) (s.updateNode q f) := by
  have hid (x : Nat) : ((s.updateNode q f).memory.nodes.cell x).recordID =
      (s.memory.nodes.cell x).recordID := by
    by_cases hx : x = q
    · subst hx
      simp [Loader.updateNode, hf]
    · simp [Loader.updateNode, Heap.set_cell_of_ne, hx]
  refine ⟨h.mem, ?_, fun x hx hrec => h.sole x hx ?_⟩
  · split_ifs with hq
    · subst hq
      simp [Loader.updateNode, h.cell]
    · simp [Loader.updateNode, Heap.set_cell_of_ne _ _ (Ne.symm hq), h.cell]
  · rw [hid x] at hrec
    split_ifs at hrec
    · rw [hrec, hf]
    · exact hrec

def withInfo (info : NodeInfoData) (rec : NodeRecord) : NodeRecord := { rec with info := some info }

def withEndpoint (ep : EndpointData) (rec : NodeRecord) : NodeRecord :=
  { rec with endpoints := rec.endpoints ++ [ep] }

theorem keepsIDs_withInfo : KeepsIDs withInfo := fun _ _ => ⟨rfl, rfl⟩

theorem keepsIDs_withEndpoint : KeepsIDs withEndpoint := fun _ _ => ⟨rfl, rfl⟩

theorem collect_singleton {α : Type} (upd : α → NodeRecord → NodeRecord) (rec : NodeRecord)
    (entry : Entry α) :
    collect upd rec [entry] =
      if entry.err = none ∧ rec.recordID ≠ "" ∧ entry.metadata.parentID = rec.recordID then
        upd entry.value rec
      else rec := by
  simp only [collect, readableOf, List.filterMap_cons, List.filterMap_nil]
  split_ifs <;> rfl

/-- The handler of a kind of child record does to the node of an entry what `upd` says. -/
def Attaches {α : Type} (handler : Entry α → LoadM (Option LoadError))
    (upd : α → NodeRecord → NodeRecord) : Prop :=
  ∀ entry p rec t, Triple (fun s => HoldsNode p rec s ∧ s.instant = t) (handler entry)
    (fun err s => err = entry.err ∧ HoldsNode p (collect upd rec [entry]) s ∧ s.instant = t)
    (fun _ _ => True)

variable (env) in
theorem triple_attach {α : Type} {upd : α → NodeRecord → NodeRecord} (hupd : KeepsIDs upd)
    {entry : Entry α} (hread : entry.err = none) (p : Nat) (rec : NodeRecord) (t : Nat) :
    Triple (fun s => HoldsNode p rec s ∧ s.instant = t)
      (do
        match parentNode env entry.metadata.parentID (← get) with
        | some q =>
          modify (Loader.updateNode q (upd entry.value))
          pure none
        | none => pure none : LoadM (Option LoadError))
      (fun err s => err = entry.err ∧ HoldsNode p (collect upd rec [entry]) s ∧ s.instant = t)
      (fun _ _ => True) := by
  intro s hs
  simp only [EStateM.run_bind, EStateM.run_get, collect_singleton, hread, true_and]
  obtain ⟨hnode, hinstant⟩ := hs
  cases hpick : parentNode env entry.metadata.parentID s with
  | none =>
    have hother : ¬ (rec.recordID ≠ "" ∧ entry.metadata.parentID = rec.recordID) := by
      rintro ⟨hid, hparent⟩
      rw [hparent, hnode.parentNode hid] at hpick
      cases hpick
    rw [if_neg hother]
    exact ⟨rfl, hnode, hinstant⟩
  | some q =>
    have hq : q = p ↔ rec.recordID ≠ "" ∧ entry.metadata.parentID = rec.recordID := by
      obtain ⟨hmem, hid, hparent⟩ := parentNode_eq_some hpick
      constructor
      · rintro rfl
        rw [hnode.cell] at hid hparent
        exact ⟨hid, hparent.symm⟩
      · rintro ⟨-, hrec⟩
        exact hnode.sole q hmem (hparent.trans hrec)
    have hwrite := hnode.updateNode (fun rec => (hupd entry.value rec).1) q
    simp only [hq] at hwrite
    exact ⟨rfl, hwrite, hinstant⟩

variable (env) in
theorem attaches_loadNodeInfoEntry : Attaches (loadNodeInfoEntry env) withInfo := by
  intro entry p rec t
  simp only [loadNodeInfoEntry]
  cases herr : entry.err with
  | some e =>
    refine .pure fun s hs => ⟨rfl, ?_, hs.2⟩
    rw [collect_singleton, if_neg (by simp [herr])]
    exact hs.1
  | none =>
    have h := triple_attach env keepsIDs_withInfo herr p rec t
    rw [herr] at h
    exact h

variable (env) in
theorem attaches_loadEndpointEntry : Attaches (loadEndpointEntry env) withEndpoint := by
  intro entry p rec t
  simp only [loadEndpointEntry]
  cases herr : entry.err with
  | some e =>
    refine Triple.bind (Q := fun _ s => HoldsNode p rec s ∧ s.instant = t) (.modify ?_) fun _ => ?_
    · exact fun s hs => ⟨⟨hs.1.mem, hs.1.cell, hs.1.sole⟩, hs.2⟩
    · refine .pure fun s hs => ⟨rfl, ?_, hs.2⟩
      rw [collect_singleton, if_neg (by simp [herr])]
      exact hs.1
  | none =>
    have h := triple_attach env keepsIDs_withEndpoint herr p rec t
    rw [herr] at h
    exact h

end Attach

section Loops
variable {env : LoadEnv} {α : Type} {p : Nat} {rec : NodeRecord}
  {handler : Entry α → LoadM (Option LoadError)} {upd : α → NodeRecord → NodeRecord}
  {answer : Nat → Except LoadError (Option (DwnReply α))}

theorem holdsNode_unclocked : Unclocked (HoldsNode p rec) where
  tick _ h := ⟨h.mem, h.cell, h.sole⟩
  accept _ _ h := ⟨h.mem, h.cell, h.sole⟩
  pass _ _ h := ⟨h.mem, h.cell, h.sole⟩

/-- A loop that leaves entries unread does so because the context is done. -/
theorem triple_loadEntries_collect (hupd : KeepsIDs upd) (hh : Attaches handler upd)
    (entries : List (Entry α)) (rec : NodeRecord) (t : Nat) :
    Triple (fun s => HoldsNode p rec s ∧ s.instant = t) (loadEntries env handler entries)
      (fun err s => err = none →
        HoldsNode p (collect upd rec entries) s ∧ s.instant = t + entries.length ∨
          env.done s.instant = true)
      (fun _ _ => True) := by
  induction entries generalizing rec t with
  | nil => exact .pure fun s hs _ => .inl hs
  | cons entry rest ih =>
    refine Triple.bind (Q := fun _ s => HoldsNode p rec s ∧ s.instant = t)
      (.modify fun s hs => ⟨holdsNode_unclocked.pass s _ hs.1, hs.2⟩) fun _ => ?_
    refine (hh entry p rec t).bind fun err => ?_
    refine ((triple_shouldAbortAt holdsNode_unclocked.tick err t).of_pre fun s hs => hs.2).bind
      fun abort => ?_
    cases abort with
    | true =>
      refine .pure fun s hs herr => .inr ?_
      subst herr
      have hdone : env.done t = true := by simpa [fatalError] using hs.2.symm
      rw [hs.1.2]
      exact env.done_succ t hdone
    | false =>
      refine (ih (collect upd rec [entry]) (t + 1)).imp (fun s hs => hs.1) ?_ (fun _ _ h => h)
      intro err' s hs herr
      refine (hs herr).imp_left fun hnode => ?_
      rw [List.length_cons, ← List.singleton_append, collect_append hupd]
      exact ⟨hnode.1, hnode.2.trans (by omega)⟩

theorem triple_readEntries_collect (hupd : KeepsIDs upd) (hh : Attaches handler upd)
    (entries : List (Entry α)) (decrypting : String) (rec : NodeRecord) (t : Nat) :
    Triple (fun s => HoldsNode p rec s ∧ s.instant = t)
      (readEntries decrypting entries (loadEntries env handler))
      (fun _ s => HoldsNode p (collect upd rec entries) s ∧ s.instant = t + entries.length ∨
        env.done s.instant = true)
      (fun _ _ => True) := by
  refine Triple.bind (Q := fun _ s => HoldsNode p rec s ∧ s.instant = t)
    (.modify fun s hs => ⟨holdsNode_unclocked.accept s _ hs.1, hs.2⟩) fun _ => ?_
  refine (triple_loadEntries_collect hupd hh entries rec t).bind fun err => ?_
  cases err with
  | some e => exact .throw fun _ _ => trivial
  | none => exact .pure fun s hs => hs rfl

section Query
variable {I : Loader → Prop} (hI : Unclocked I) (t : Nat)

include hI

/-- A query whose context is done fails, any other gets the answer of its instant. -/
theorem triple_recordsQueryWithAuth_at :
    Triple (fun s => I s ∧ s.instant = t ∨ env.done s.instant = true)
      (recordsQueryWithAuth env answer)
      (fun result s => env.done s.instant = true ∧ (∃ e, result = .error e) ∨
        (I s ∧ s.instant = t + 1) ∧ result >>= queryEntries = answer t >>= queryEntries)
      (fun _ _ => True) := by
  have hsend : Triple (fun s => I s ∧ s.instant = t ∨ env.done s.instant = true) (send env answer)
      (fun result s => env.done s.instant = true ∧ (∃ e, result = .error e) ∨
        (I s ∧ s.instant = t + 1) ∧ result = answer t) (fun _ _ => True) := by
    refine Triple.bind
      (Q := fun t' s => s.instant = t' + 1 ∧ (I s ∧ t' = t ∨ env.done t' = true))
      (.modifyGet fun s hs => ⟨rfl, hs.imp_left fun h => ⟨hI.tick s h.1, h.2⟩⟩) fun t' => ?_
    refine .pure fun s hs => ?_
    by_cases hdone : env.done t' = true
    · rw [if_pos hdone, hs.1]
      exact .inl ⟨env.done_succ t' hdone, _, rfl⟩
    · obtain ⟨hs', rfl⟩ := hs.2.resolve_right hdone
      rw [if_neg hdone]
      exact .inr ⟨⟨hs', hs.1⟩, rfl⟩
  refine hsend.bind fun result => ?_
  split
  · next reply =>
    split_ifs with hcode
    · refine .pure fun s hs => hs.imp (fun h => ⟨h.1, _, rfl⟩) fun h => ⟨h.1, ?_⟩
      rw [← h.2]
      simp [bind, Except.bind, queryEntries, hcode]
    · refine .pure fun s hs => .inr ?_
      obtain ⟨-, e, he⟩ | ⟨hs, hanswer⟩ := hs
      · cases he
      · exact ⟨hs, by rw [hanswer]⟩
  · exact .pure fun s hs => hs.imp id fun h => ⟨h.1, by rw [h.2]⟩

/-- What a query gets at the instant `t`, where the context is not done. -/
theorem triple_queryOptional_at (querying parsing : String) :
    Triple (fun s => I s ∧ s.instant = t ∨ env.done s.instant = true)
      (queryOptional env querying parsing answer)
      (fun result s => match answer t >>= queryEntries with
        | .ok entries => result = some entries ∧ I s ∧ s.instant = t + 1
        | .error _ => result = none ∧ I s ∧ s.instant = t + 2)
      (fun _ _ => True) := by
  have hskip (err : Option LoadError) (e e' : LoadError) :
      Triple (fun s => env.done s.instant = true ∨
          (I s ∧ s.instant = t + 1) ∧ answer t >>= queryEntries = .error e')
        (do if ← shouldAbortStateLoad env err then throw e else pure none)
        (fun result s => match answer t >>= queryEntries with
          | .ok entries => result = some entries ∧ I s ∧ s.instant = t + 1
          | .error _ => result = none ∧ I s ∧ s.instant = t + 2)
        (fun _ _ => True) := by
    refine Triple.bind (Q := fun abort s => abort = false →
      (I s ∧ s.instant = t + 2) ∧ answer t >>= queryEntries = .error e') ?_ fun abort => ?_
    · refine Triple.bind (Q := fun t' s => env.done t' = true ∨
        (I s ∧ s.instant = t + 2) ∧ answer t >>= queryEntries = .error e') (.modifyGet ?_)
        fun t' => .pure ?_
      · exact fun s hs => hs.imp_right fun h => ⟨⟨hI.tick s h.1.1, congrArg (· + 1) h.1.2⟩, h.2⟩
      · intro s hs habort
        exact hs.resolve_left (by simp [(Bool.or_eq_false_iff.mp habort).1])
    · cases abort with
      | true => exact .throw fun _ _ => trivial
      | false =>
        refine .pure fun s hs => ?_
        rw [(hs rfl).2]
        exact ⟨rfl, (hs rfl).1⟩
  refine (triple_recordsQueryWithAuth_at hI t).bind fun result => ?_
  cases result with
  | error e =>
    refine (hskip _ _ e).of_pre fun s hs => hs.imp (fun h => h.1) fun h => ⟨h.1, ?_⟩
    rw [← h.2]
    rfl
  | ok reply =>
    dsimp only
    cases hreply : queryEntries reply with
    | error e =>
      refine (hskip _ _ e).of_pre fun s hs => hs.imp (fun h => h.1) fun h => ⟨h.1, ?_⟩
      rw [← h.2]
      exact hreply
    | ok entries =>
      refine .pure fun s hs => ?_
      obtain ⟨-, e, he⟩ | ⟨hs, hanswer⟩ := hs
      · cases he
      · have hentries : answer t >>= queryEntries = .ok entries := by
          rw [← hanswer]
          exact hreply
        rw [hentries]
        exact ⟨rfl, hs⟩

end Query

/-- The child records of all nodes, read one query after the other. -/
theorem triple_loadNodeChildRecords_collect (hupd : KeepsIDs upd) (hh : Attaches handler upd)
    (stage : String) (queries : List NodeChildRecordQuery) (rec : NodeRecord) (t : Nat) :
    Triple (fun s => HoldsNode p rec s ∧ s.instant = t ∨ env.done s.instant = true)
      (loadNodeChildRecords env stage answer handler queries)
      (fun _ s => HoldsNode p (collect upd rec (childReplies answer t queries).1) s ∧
        s.instant = (childReplies answer t queries).2 ∨ env.done s.instant = true)
      (fun _ _ => True) := by
  induction queries generalizing rec t with
  | nil => exact .pure fun s hs => hs
  | cons query rest ih =>
    refine Triple.bind
      (Q := fun _ s => match answer t >>= queryEntries with
        | .ok entries => HoldsNode p (collect upd rec entries) s ∧
            s.instant = t + 1 + entries.length ∨ env.done s.instant = true
        | .error _ => HoldsNode p rec s ∧ s.instant = t + 2) ?_ fun _ => ?_
    · refine (triple_queryOptional_at holdsNode_unclocked t _ _).bind fun result => ?_
      cases answer t >>= queryEntries with
      | error e =>
        cases result with
        | none => exact .pure fun s hs => hs.2
        | some entries => exact fun s hs => nomatch hs.1
      | ok entries =>
        cases result with
        | none => exact fun s hs => nomatch hs.1
        | some entries' =>
          intro s hs
          obtain rfl := Option.some.inj hs.1
          exact triple_readEntries_collect hupd hh entries' _ rec (t + 1) s hs.2
    · rw [childReplies]
      cases hanswer : answer t >>= queryEntries with
      | error e => exact (ih rec (t + 2)).of_pre fun s hs => .inl hs
      | ok entries =>
        dsimp only
        rw [collect_append hupd]
        exact ih _ _

end Loops

/-- The nodes have kept their IDs. -/
structure SameIDs (s s' : Loader) : Prop where
  nodeMap : s'.nodeMap = s.nodeMap
  recordID : ∀ q, (s'.memory.nodes.cell q).recordID = (s.memory.nodes.cell q).recordID
  memberRecordID : ∀ q,
    (s'.memory.nodes.cell q).memberRecordID = (s.memory.nodes.cell q).memberRecordID

section Frame
variable {s s' : Loader} {cfg : ClientConfig} {env : LoadEnv}

theorem SameIDs.unclocked : Unclocked (SameIDs s) where
  tick _ h := ⟨h.nodeMap, h.recordID, h.memberRecordID⟩
  accept _ _ h := ⟨h.nodeMap, h.recordID, h.memberRecordID⟩
  pass _ _ h := ⟨h.nodeMap, h.recordID, h.memberRecordID⟩

theorem SameIDs.updateNode {α : Type} {upd : α → NodeRecord → NodeRecord} (hupd : KeepsIDs upd)
    (h : SameIDs s s') (p : Nat) (a : α) : SameIDs s (s'.updateNode p (upd a)) := by
  have hsame (q : Nat) : ((s'.updateNode p (upd a)).memory.nodes.cell q).recordID =
        (s'.memory.nodes.cell q).recordID ∧
      ((s'.updateNode p (upd a)).memory.nodes.cell q).memberRecordID =
        (s'.memory.nodes.cell q).memberRecordID := by
    by_cases hq : q = p
    · subst hq
      simp [Loader.updateNode, hupd a _]
    · simp [Loader.updateNode, Heap.set_cell_of_ne, hq]
  exact ⟨h.nodeMap, fun q => (hsame q).1.trans (h.recordID q),
    fun q => (hsame q).2.trans (h.memberRecordID q)⟩

theorem keeps_sameIDs_loadNodeInfo (queries : List NodeChildRecordQuery) :
    Keeps (SameIDs s) (loadNodeInfo env queries) :=
  keeps_loadNodeChildRecords SameIDs.unclocked
    (keeps_loadNodeInfoEntry fun _ p info h _ => h.updateNode keepsIDs_withInfo p info) queries

theorem keeps_sameIDs_loadEndpoints (queries : List NodeChildRecordQuery) :
    Keeps (SameIDs s) (loadEndpoints env queries) :=
  keeps_loadNodeChildRecords SameIDs.unclocked
    (keeps_loadEndpointEntry (fun _ h => ⟨h.nodeMap, h.recordID, h.memberRecordID⟩)
      fun _ p ep h _ => h.updateNode keepsIDs_withEndpoint p ep) queries

theorem SameIDs.queries_eq (h : SameIDs s s') (childType : String) :
    nodeChildRecordQueries cfg childType s' = nodeChildRecordQueries cfg childType s := by
  simp only [nodeChildRecordQueries, h.nodeMap, List.filterMap_map, Function.comp_def, h.recordID,
    h.memberRecordID]

end Frame

section Newest

/-- A fold that keeps the last value other than `d`. -/
theorem foldl_getLast {β γ : Type} [DecidableEq γ] (f : β → γ) (d : γ) (l : List β) (b : γ) :
    l.foldl (fun acc a => if f a ≠ d then f a else acc) b =
      ((l.map f).filter (· ≠ d)).getLast?.getD b := by
  induction l using List.reverseRecOn with
  | nil => rfl
  | append_singleton l a ih =>
    rw [List.foldl_append, ih, List.map_append, List.filter_append]
    by_cases ha : f a = d
    · simp [ha]
    · simp [ha]

/-- The first and the last element are the same. -/
def Agree {β : Type} (l : List β) : Prop := l.head? = l.getLast?

/-- Where the last element wins, the first one does if the two agree. -/
theorem first_wins_iff {β γ : Type} {l : List β} {f : β → γ} {x : γ} (hf : Function.Injective f)
    (hlast : ∀ b, l.getLast? = some b → x = f b) :
    (∀ a, l.head? = some a → x = f a) ↔ Agree l := by
  cases l with
  | nil => simp [Agree]
  | cons a l =>
    obtain ⟨b, hb⟩ := Option.isSome_iff_exists.mp (List.getLast?_isSome.mpr (List.cons_ne_nil a l))
    simp only [List.head?_cons, Option.some.injEq, forall_eq', Agree, hb, hlast b hb]
    exact ⟨fun h => (hf h).symm, fun h => congrArg f h.symm⟩

def discoKeys (endpoints : List EndpointData) : List String :=
  (endpoints.map (·.discoKey)).filter (· ≠ "")

def preferredDERPs (endpoints : List EndpointData) : List Int :=
  (endpoints.map (·.preferredDERP)).filter (· ≠ 0)

theorem collect_withInfo_info {rec : NodeRecord} {entries : List (Entry NodeInfoData)}
    {info : NodeInfoData} (h : (readableOf rec.recordID entries).getLast? = some info) :
    (collect withInfo rec entries).info = some info := by
  obtain ⟨infos, hinfos⟩ := List.getLast?_eq_some_iff.mp h
  rw [collect, hinfos, List.foldl_append]
  rfl

theorem collect_withInfo_endpoints (rec : NodeRecord) (entries : List (Entry NodeInfoData)) :
    (collect withInfo rec entries).endpoints = rec.endpoints := by
  unfold collect
  generalize readableOf rec.recordID entries = infos
  induction infos generalizing rec with
  | nil => rfl
  | cons info infos ih => exact ih _

theorem collect_withEndpoint (rec : NodeRecord) (entries : List (Entry EndpointData)) :
    (collect withEndpoint rec entries).info = rec.info ∧
    (collect withEndpoint rec entries).endpoints =
      rec.endpoints ++ readableOf rec.recordID entries := by
  unfold collect
  generalize readableOf rec.recordID entries = eps
  induction eps generalizing rec with
  | nil => exact ⟨rfl, (List.append_nil _).symm⟩
  | cons ep eps ih =>
    obtain ⟨hinfo, heps⟩ := ih (withEndpoint ep rec)
    exact ⟨hinfo, heps.trans (by simp [withEndpoint])⟩

variable {platform : Platform} {networkRecordID : String} {now : Time} {c : CachedState}
  {did : String} {rec : NodeRecord} {eps eps' : List EndpointData}

/-- The last disco key among the endpoints. -/
theorem mapNode_discoKey (h : rec.endpoints = eps ++ eps') {key : String}
    (hlast : (discoKeys eps').getLast? = some key) :
    (mapNode platform networkRecordID now c did rec).discoKey = key := by
  obtain ⟨_, _, _, heq⟩ := mapNode_eq platform networkRecordID now c did rec
  have hkeys : discoKeys rec.endpoints = discoKeys eps ++ discoKeys eps' := by simp [discoKeys, h]
  have hfold := foldl_getLast EndpointData.discoKey "" rec.endpoints ""
  rw [← discoKeys, hkeys, List.getLast?_append, hlast] at hfold
  rw [heq]
  exact hfold

/-- The last preferred relay among the endpoints. -/
theorem mapNode_preferredDERP (h : rec.endpoints = eps ++ eps') {derp : Int}
    (hlast : (preferredDERPs eps').getLast? = some derp) :
    (mapNode platform networkRecordID now c did rec).preferredDERP = derp := by
  obtain ⟨_, _, _, heq⟩ := mapNode_eq platform networkRecordID now c did rec
  have hderps : preferredDERPs rec.endpoints = preferredDERPs eps ++ preferredDERPs eps' := by
    simp [preferredDERPs, h]
  have hfold := foldl_getLast EndpointData.preferredDERP 0 rec.endpoints 0
  rw [← preferredDERPs, hderps, List.getLast?_append, hlast] at hfold
  have hne : derp ≠ 0 := by simpa using (List.mem_filter.mp (List.mem_of_getLast? hlast)).2
  rw [heq]
  simp only [nodeRecordToNodeWithThreshold, hfold]
  exact if_neg hne

end Newest

/-- The node has what the newest of its child records say: the newest node info, and in the map the
newest disco key and preferred relay of its endpoints. -/
structure NewestWins (resp : MapResponse) (did : String) (rec : NodeRecord)
    (infos : List NodeInfoData) (endpoints : List EndpointData) : Prop where
  info : ∀ info, infos.head? = some info → rec.info = some info
  discoKey : ∀ node ∈ resp.node :: resp.peers, node.did = did →
    ∀ key, (discoKeys endpoints).head? = some key → node.discoKey = key
  preferredDERP : ∀ node ∈ resp.node :: resp.peers, node.did = did →
    ∀ derp, (preferredDERPs endpoints).head? = some derp → node.preferredDERP = derp

section Load
variable (cfg : ClientConfig) (env : LoadEnv)

/-- The steps up to the policy, after which the child records are loaded. -/
def loadParents : LoadM Unit := do
  loadNetwork env
  loadNodes env
  loadMembers env
  loadMemberNodes cfg env
  loadRelays env
  loadACL env

theorem loadSteps_eq : loadSteps cfg env = (do
    loadParents cfg env
    loadNodeInfo env (nodeChildRecordQueries cfg "nodeInfo" (← get))
    loadEndpoints env (nodeChildRecordQueries cfg "endpoint" (← get))
    finishLoad cfg env) := by
  simp only [loadSteps, loadRecords, loadParents, bind_assoc]

variable {cfg env}

/-- The node that the child records leave behind, unless the context is done. -/
theorem collected {s₁ s₂ s₃ : Loader} {p : Nat} (hnode : HoldsNode p (s₁.memory.nodes.cell p) s₁)
    (hinfo : (loadNodeInfo env (nodeChildRecordQueries cfg "nodeInfo" s₁)).run s₁ = .ok () s₂)
    (hends : (loadEndpoints env (nodeChildRecordQueries cfg "endpoint" s₂)).run s₂ = .ok () s₃)
    (hlive : env.done s₃.instant = false) :
    let infoReplies := childReplies env.nodeInfo s₁.instant
      (nodeChildRecordQueries cfg "nodeInfo" s₁)
    let endpointReplies := childReplies env.endpoints infoReplies.2
      (nodeChildRecordQueries cfg "endpoint" s₁)
    s₃.memory.nodes.cell p =
      collect withEndpoint (collect withInfo (s₁.memory.nodes.cell p) infoReplies.1)
        endpointReplies.1 := by
  intro infoReplies endpointReplies
  have hsame : SameIDs s₁ s₂ :=
    (keeps_sameIDs_loadNodeInfo _).ok ⟨rfl, fun _ => rfl, fun _ => rfl⟩ hinfo
  rw [hsame.queries_eq] at hends
  have h₂ := (triple_loadNodeChildRecords_collect keepsIDs_withInfo
    (attaches_loadNodeInfoEntry env) _ _ _ _).ok (.inl ⟨hnode, rfl⟩) hinfo
  have h₃ := (triple_loadNodeChildRecords_collect keepsIDs_withEndpoint
    (attaches_loadEndpointEntry env) _ _ _ _).ok h₂ hends
  exact (h₃.resolve_right (by simp [hlive])).1.cell

/-- What follows the parents in a load: node info, endpoints, and the map of what there is then. -/
theorem loadState_children {s s₁ s' : Loader} {resp : MapResponse}
    (hparents : (loadParents cfg env).run s.start.stateSnapshot.2 = .ok () s₁)
    (hload : loadState cfg env s = .ok resp s') :
    ∃ s₂ s₃ n,
      (loadNodeInfo env (nodeChildRecordQueries cfg "nodeInfo" s₁)).run s₁ = .ok () s₂ ∧
      (loadEndpoints env (nodeChildRecordQueries cfg "endpoint" s₂)).run s₂ = .ok () s₃ ∧
      (buildMapResponse cfg.platform cfg.networkRecordID cfg.selfDID env.now s₃.cached).1 =
        some resp ∧ s' = s₃.countDropped n := by
  rw [loadState_ok, loadSteps_eq, run_bind_ok] at hload
  obtain ⟨_, s, hs, hload⟩ := hload
  obtain ⟨rfl, rfl⟩ := EStateM.Result.ok.inj (hparents.symm.trans hs)
  rw [run_bind_ok] at hload
  obtain ⟨_, _, ⟨⟩, hload⟩ := hload
  rw [run_bind_ok] at hload
  obtain ⟨_, s₂, hinfo, hload⟩ := hload
  rw [run_bind_ok] at hload
  obtain ⟨_, _, ⟨⟩, hload⟩ := hload
  rw [run_bind_ok] at hload
  obtain ⟨_, s₃, hends, hload⟩ := hload
  obtain ⟨hbuild, n, rfl⟩ := finishLoad_ok hload
  exact ⟨s₂, s₃, n, hinfo, hends, hbuild, rfl⟩

/-- When the newest child records of a node win. Of several readable ones the oldest wins, so the
oldest and the newest must agree. -/
theorem newest_wins_iff {s s₁ s' : Loader} {resp : MapResponse}
    (hparents : (loadParents cfg env).run s.start.stateSnapshot.2 = .ok () s₁)
    (hload : loadState cfg env s = .ok resp s') (hlive : env.done s'.instant = false)
    {did : String} {p : Nat} (hp : s'.nodeMap.lookup did = some p)
    (hsole : ∀ q ∈ s'.nodeMap.values,
      (s'.memory.nodes.cell q).recordID = (s'.memory.nodes.cell p).recordID → q = p) :
    let record := s'.memory.nodes.cell p
    let infoReplies := childReplies env.nodeInfo s₁.instant
      (nodeChildRecordQueries cfg "nodeInfo" s₁)
    let endpointReplies := childReplies env.endpoints infoReplies.2
      (nodeChildRecordQueries cfg "endpoint" s₁)
    let infos := readableOf record.recordID infoReplies.1
    let endpoints := readableOf record.recordID endpointReplies.1
    NewestWins resp did record infos endpoints ↔
      Agree infos ∧ ((∃ node ∈ resp.node :: resp.peers, node.did = did) →
        Agree (discoKeys endpoints) ∧ Agree (preferredDERPs endpoints)) := by
  intro record infoReplies endpointReplies infos endpoints
  obtain ⟨s₂, s₃, n, hinfo, hends, hbuild, rfl⟩ := loadState_children hparents hload
  have hsame : SameIDs s₁ s₃ := (keeps_sameIDs_loadEndpoints _).ok
    ((keeps_sameIDs_loadNodeInfo _).ok ⟨rfl, fun _ => rfl, fun _ => rfl⟩ hinfo) hends
  have hmem : p ∈ s₃.nodeMap.values :=
    List.mem_map_of_mem (f := Sigma.snd) (AList.mem_lookup_iff.mp hp)
  have hnode : HoldsNode p (s₁.memory.nodes.cell p) s₁ := by
    refine ⟨hsame.nodeMap ▸ hmem, rfl, fun q hq hid => ?_⟩
    rw [← hsame.recordID, ← hsame.recordID] at hid
    exact hsole q (show q ∈ s₃.nodeMap.values from hsame.nodeMap.symm ▸ hq) hid
  have hid : record.recordID = (s₁.memory.nodes.cell p).recordID := hsame.recordID p
  have hcollected := collected hnode hinfo hends hlive
  have hrecord : record = collect withEndpoint
      (collect withInfo (s₁.memory.nodes.cell p) infoReplies.1) endpointReplies.1 := hcollected
  -- Of each kind of record the last one that can be read is the one that stays.
  have hlastInfo (info : NodeInfoData) (h : infos.getLast? = some info) :
      record.info = some info := by
    rw [hrecord, (collect_withEndpoint _ _).1]
    exact collect_withInfo_info (hid ▸ h)
  have hendpoints : record.endpoints = (s₁.memory.nodes.cell p).endpoints ++ endpoints := by
    have heps := (collect_withEndpoint (collect withInfo (s₁.memory.nodes.cell p) infoReplies.1)
      endpointReplies.1).2
    rw [← hrecord, collect_withInfo_endpoints, collect, keepsIDs_withInfo.foldl_recordID, ← hid]
      at heps
    exact heps
  have hshown (node : Node) (h : node ∈ resp.node :: resp.peers) (hdid : node.did = did) :
      node = mapNode cfg.platform cfg.networkRecordID env.now s₃.cached did record := by
    obtain ⟨q, hq, heq⟩ := exists_record_of_mem hbuild h
    rw [hdid] at hq heq
    obtain rfl : q = p := Option.some.inj (hq.symm.trans hp)
    exact heq
  have hkey (node : Node) (h : node ∈ resp.node :: resp.peers) (hdid : node.did = did) :=
    first_wins_iff (l := discoKeys endpoints) (x := node.discoKey) (f := id) Function.injective_id
      fun key hlast => by rw [hshown node h hdid]; exact mapNode_discoKey hendpoints hlast
  have hderp (node : Node) (h : node ∈ resp.node :: resp.peers) (hdid : node.did = did) :=
    first_wins_iff (l := preferredDERPs endpoints) (x := node.preferredDERP) (f := id)
      Function.injective_id
      fun derp hlast => by rw [hshown node h hdid]; exact mapNode_preferredDERP hendpoints hlast
  have hinfos := first_wins_iff (Option.some_injective NodeInfoData) hlastInfo
  constructor
  · rintro ⟨hi, hk, hd⟩
    refine ⟨hinfos.mp hi, ?_⟩
    rintro ⟨node, h, hdid⟩
    exact ⟨(hkey node h hdid).mp (hk node h hdid), (hderp node h hdid).mp (hd node h hdid)⟩
  · rintro ⟨hi, hagree⟩
    refine ⟨hinfos.mpr hi, fun node h hdid => ?_, fun node h hdid => ?_⟩
    · exact (hkey node h hdid).mpr (hagree ⟨node, h, hdid⟩).1
    · exact (hderp node h hdid).mpr (hagree ⟨node, h, hdid⟩).2

end Load

/-- One node, with the given versions of its node info and of its endpoints. -/
def versionsEnv (infos : List NodeInfoData) (endpoints : List EndpointData) : LoadEnv :=
  { homeEnv with
    nodeInfo := fun _ => replyWith
      (infos.map fun info => { metadata := { parentID := "bafy-alice" }, value := info })
    endpoints := fun _ => replyWith
      (endpoints.map fun ep => { metadata := { parentID := "bafy-alice" }, value := ep }) }

/-- The computation returns, with an outcome that passes the check. -/
def returns {α : Type} (check : α → Loader → Bool) : EStateM.Result LoadError Loader α → Bool
  | .ok a s => check a s
  | .error _ _ => false

theorem exists_of_returns {α : Type} {check : α → Loader → Bool}
    {result : EStateM.Result LoadError Loader α} (h : returns check result = true) :
    ∃ a s, result = .ok a s ∧ check a s = true := by
  cases result with
  | ok a s => exact ⟨a, s, rfl, h⟩
  | error e s => cases h

theorem versionsEnv_once :
    let env := versionsEnv [{ hostname := "desk" }] [{ discoKey := "discokey:1", preferredDERP := 2 }]
    ∃ resp s', loadState homeConfig env homeClient = .ok resp s' ∧
      NewestWins resp "did:jwk:alice" (s'.memory.nodes.cell 1) [{ hostname := "desk" }]
        [{ discoKey := "discokey:1", preferredDERP := 2 }] := by
  intro env
  have hparents : returns (fun _ s₁ =>
      let infoReplies := childReplies env.nodeInfo s₁.instant
        (nodeChildRecordQueries homeConfig "nodeInfo" s₁)
      let endpointReplies := childReplies env.endpoints infoReplies.2
        (nodeChildRecordQueries homeConfig "endpoint" s₁)
      decide (readableOf "bafy-alice" infoReplies.1 = [{ hostname := "desk" }] ∧
        readableOf "bafy-alice" endpointReplies.1 =
          [{ discoKey := "discokey:1", preferredDERP := 2 }]))
      ((loadParents homeConfig env).run homeClient.start.stateSnapshot.2) = true := by
    decide +kernel
  have hload : returns (fun _ s' => decide (s'.nodeMap.lookup "did:jwk:alice" = some 1 ∧
      s'.nodeMap.values = [1] ∧ (s'.memory.nodes.cell 1).recordID = "bafy-alice"))
      (loadState homeConfig env homeClient) = true := by
    decide +kernel
  obtain ⟨_, s₁, hparents, hlists⟩ := exists_of_returns hparents
  obtain ⟨resp, s', hload, hnode⟩ := exists_of_returns hload
  obtain ⟨hinfos, hendpoints⟩ := of_decide_eq_true hlists
  obtain ⟨hlookup, hvalues, hid⟩ := of_decide_eq_true hnode
  have hwins := newest_wins_iff hparents hload rfl hlookup
    (fun q hq _ => List.mem_singleton.mp (hvalues ▸ hq))
  simp only [hid, hinfos, hendpoints] at hwins
  exact ⟨resp, s', hload, hwins.mpr ⟨rfl, fun _ => ⟨rfl, rfl⟩⟩⟩

/-- Two versions of each record, the newer first. The older ones win. -/
theorem versionsEnv_oldest :
    let env := versionsEnv [{ hostname := "desk" }, { hostname := "laptop" }]
      [{ discoKey := "discokey:2", preferredDERP := 2 },
        { discoKey := "discokey:1", preferredDERP := 4 }]
    ∃ resp s', loadState homeConfig env homeClient = .ok resp s' ∧ env.done s'.instant = false ∧
      (s'.memory.nodes.cell 1).info = some { hostname := "laptop" } ∧
      resp.node.did = "did:jwk:alice" ∧ resp.node.discoKey = "discokey:1" ∧
      resp.node.preferredDERP = 4 := by
  intro env
  have hload : returns (fun resp s' => decide
      ((s'.memory.nodes.cell 1).info = some { hostname := "laptop" } ∧
        resp.node.did = "did:jwk:alice" ∧ resp.node.discoKey = "discokey:1" ∧
        resp.node.preferredDERP = 4)) (loadState homeConfig env homeClient) = true := by
    decide +kernel
  obtain ⟨resp, s', hload, hold⟩ := exists_of_returns hload
  exact ⟨resp, s', hload, rfl, of_decide_eq_true hold⟩

end Meshd.Control

import Meshd.Control.LookupErrors
import Meshd.Control.Rollback

namespace Meshd.Control

open Meshd.Framework Meshd.Dwn.Crypto
open Meshd.Dwn (Codec Exchange HttpResponse)

/-! ### The steps of a load -/

namespace Step

variable (w : WireEnv)

/-- The record of the step is decrypted, whatever its lookups met. -/
def decrypted : Step → Bool
  | .decrypt record => record.decrypted w.primitives w.codec w.ring
  | _ => false

/-- A step of which the client can make out a rate limit. A read does not look for one in the
status of the reply, which is no harm where there is one besides. -/
def Regular : Step → Prop
  | .read x => x.Regular w.codec ∧ (x.ReplyLimited w.codec → x.TransportLimited w.codec)
  | .query x => x.Regular w.codec
  | .decrypt record => record.Regular w.primitives w.codec w.ring

/-- There is no rate limit in the step that the load has to report. -/
def Silent (step : Step) : Prop :=
  step.Regular w → step.decrypted w = false → ∀ x ∈ step.requests w, ¬ x.RateLimited w.codec

/-- The error reports the rate limits of the step. -/
def Told (e : LoadError) (step : Step) : Prop :=
  step.Regular w → step.decrypted w = false → ∀ x ∈ step.requests w, x.RateLimited w.codec →
    e.Carries w.codec x

variable {w} {step : Step}

theorem Silent.told (h : step.Silent w) (e : LoadError) : step.Told w e :=
  fun hregular hsealed x hx hlimit => absurd hlimit (h hregular hsealed x hx)

theorem regular_of_not_silent (h : ¬ step.Silent w) : step.Regular w := by
  by_contra hregular
  exact h fun hr => absurd hr hregular

theorem Regular.panics (h : step.Regular w) : step.panics w = false := by
  cases step with
  | read x => rfl
  | query x => exact Option.isNone_eq_false_iff.mpr (Dwn.recordsQueryWithAuth_isSome h)
  | decrypt record =>
    refine List.any_eq_false.mpr fun x hx => ?_
    exact Bool.eq_false_iff.mp (Option.isNone_eq_false_iff.mpr
      (Dwn.recordsQueryWithAuth_isSome (h.answers x hx)))

end Step

namespace WireEnv

/-- A log with nothing to report. -/
def Quiet (w : WireEnv) (log : List Step) : Prop := ∀ step ∈ log, step.Silent w

/-- A log in which only the last step has anything to report, and the error reports it. -/
def ToldLast (w : WireEnv) (e : LoadError) (log : List Step) : Prop :=
  ∃ old new, log = old ++ new ∧ w.Quiet old ∧ new.length ≤ 1 ∧ ∀ step ∈ new, step.Told w e

/-- A load that goes on, or ends, with nothing to report, or fails with an error that reports all
there is. -/
def Surfaces (w : WireEnv) {α : Type} (x : WireM α) : Prop :=
  Triple (fun p => w.Quiet p.2) x (fun _ p => w.Quiet p.2) (fun e p => w.ToldLast e p.2)

variable {w : WireEnv} {α β : Type}

theorem Quiet.append {log log' : List Step} (h : w.Quiet log) (h' : w.Quiet log') :
    w.Quiet (log ++ log') :=
  List.forall_mem_append.mpr ⟨h, h'⟩

theorem Quiet.toldLast {log : List Step} (h : w.Quiet log) (e : LoadError) : w.ToldLast e log :=
  ⟨log, [], (List.append_nil log).symm, h, Nat.zero_le 1, by simp⟩

theorem length_parseSteps (w : WireEnv) (entry : WireEntry α) :
    (w.parseSteps entry).length ≤ 1 := by
  rw [parseSteps]
  split
  · split_ifs
    · exact Nat.zero_le 1
    · exact le_rfl
  · exact Nat.zero_le 1

theorem Surfaces.pure (a : α) : w.Surfaces (pure a) := Triple.pure fun _ h => h

theorem Surfaces.bind {x : WireM α} {f : α → WireM β} (hx : w.Surfaces x)
    (hf : ∀ a, w.Surfaces (f a)) : w.Surfaces (x >>= f) :=
  Triple.bind hx hf

theorem surfaces_lift (x : LoadM α) : w.Surfaces (lift x) :=
  (keeps_lift (L := w.Quiet)).imp (fun _ h => h) (fun _ _ h => h) fun e _ h => h.toldLast e

theorem surfaces_logging {x : LoadM α} {step : Nat → Step}
    (h : ∀ s, w.done s.instant = false → ¬ (step s.instant).Silent w →
      ∃ e s', x.run s = .error e s' ∧ (step s.instant).Told w e) :
    w.Surfaces (logging (w.sent step) x) := by
  apply Triple.logging
  · intro p a s' hp hx
    rw [sent]
    split_ifs with hdone
    · simpa using hp
    · refine hp.append (List.forall_mem_singleton.mpr ?_)
      by_contra hsilent
      obtain ⟨e, s₁, hrun, -⟩ := h p.1 (by simpa using hdone) hsilent
      rw [hrun] at hx
      cases hx
  · intro p e s' hp hx
    rw [sent]
    split_ifs with hdone
    · simpa using hp.toldLast e
    · refine ⟨p.2, _, rfl, hp, le_rfl, List.forall_mem_singleton.mpr ?_⟩
      by_cases hsilent : (step p.1.instant).Silent w
      · exact hsilent.told e
      · obtain ⟨e₁, s₁, hrun, htold₁⟩ := h p.1 (by simpa using hdone) hsilent
        rw [hrun] at hx
        obtain ⟨rfl, -⟩ := EStateM.Result.error.inj hx
        exact htold₁

theorem clientResult_limited {ch : Channel α} (h : ch.exchange.Regular w.codec)
    (hlimit : ch.exchange.RateLimited w.codec) :
    ∃ e, clientResult (w.answer ch) = .error e ∧ e.rateLimited = true ∧
      e.Carries w.codec ch.exchange := by
  obtain ⟨limit, hquery, hgiven⟩ := Dwn.recordsQueryWithAuth_limited h hlimit
  rw [Dwn.recordsQueryWithAuth] at hquery
  split at hquery
  · next reply hsend =>
    split_ifs at hquery with hcode
    · obtain ⟨found, hfound, rfl⟩ : ∃ found, Dwn.queryRateLimitError w.codec reply.status =
          some found ∧ found = limit := by simpa using hquery
      obtain ⟨parsed, hparsed, rfl⟩ := Option.map_eq_some_iff.mp hfound
      refine ⟨_, by simp only [answer, hsend, mapError_ok, ok_map, Option.map_some, clientResult,
        DwnReply.ofReply, hcode, hparsed]; rfl, rfl, _, rfl, hgiven⟩
    · cases hquery
  · next hsend =>
    have herr : Dwn.send w.codec ch.exchange = .error (.rateLimit limit) := Option.some.inj hquery
    refine ⟨.ofSend (.rateLimit limit), by simp [answer, herr, clientResult], rfl, ?_⟩
    exact ⟨limit.retryAfter, rfl, hgiven⟩

/-- A limited query, of which the load gets an error that tells of it. -/
theorem query_limited {ch : Channel α} (h : ¬ (Step.query ch.exchange).Silent w) :
    ∃ e, clientResult (w.answer ch) = .error e ∧ e.rateLimited = true ∧
      (Step.query ch.exchange).Told w e := by
  have hlimit : ch.exchange.RateLimited w.codec := by
    by_contra hlimit
    refine h fun _ _ x hx => ?_
    rw [List.mem_singleton.mp hx]
    exact hlimit
  obtain ⟨e, hresult, hfatal, hcarries⟩ :=
    clientResult_limited (Step.regular_of_not_silent h) hlimit
  refine ⟨e, hresult, hfatal, fun _ _ x hx _ => ?_⟩
  rw [List.mem_singleton.mp hx]
  exact hcarries

theorem surfaces_queryRequired (what : String) (ch : Nat → Channel α) :
    w.Surfaces (w.queryRequired what ch) := by
  refine Surfaces.bind (surfaces_logging fun s hdone hsilent => ?_) fun _ => Surfaces.pure _
  obtain ⟨e, hresult, -, htold⟩ := query_limited hsilent
  obtain ⟨s', hrun⟩ : ∃ s', (Control.queryRequired w.loadEnv what fun t => w.answer (ch t)).run s =
      .error (e.wrap ("querying " ++ what)) s' := queryRequired_error hdone hresult what
  exact ⟨_, s', hrun, htold⟩

theorem surfaces_queryOptional (querying parsing : String) (ch : Nat → Channel α) :
    w.Surfaces (w.queryOptional querying parsing ch) := by
  refine Surfaces.bind (surfaces_logging fun s hdone hsilent => ?_) fun _ => Surfaces.pure _
  obtain ⟨e, hresult, hfatal, htold⟩ := query_limited hsilent
  obtain ⟨s', hrun⟩ : ∃ s',
      (Control.queryOptional w.loadEnv querying parsing fun t => w.answer (ch t)).run s =
        .error (e.wrap querying) s' := queryOptional_error hdone hresult hfatal querying parsing
  exact ⟨_, s', hrun, htold⟩

theorem surfaces_loadNetwork : w.Surfaces w.loadNetwork := by
  refine Surfaces.bind (surfaces_logging fun s hdone hsilent => ?_) fun _ => Surfaces.pure _
  have hregular := Step.regular_of_not_silent hsilent
  have hlimit : w.network.RateLimited w.codec := by
    by_contra hlimit
    refine hsilent fun _ _ x hx => ?_
    rw [List.mem_singleton.mp hx]
    exact hlimit
  obtain ⟨limit, hsend, hgiven⟩ := Dwn.send_limited hregular.1 hlimit hregular.2
  have hanswer : w.networkAnswer = .error (.ofSend (.rateLimit limit)) := by
    simp [networkAnswer, hsend]
  have hrun : (send w.loadEnv fun _ => w.loadEnv.network).run s =
      .ok (.error (.ofSend (.rateLimit limit))) { s with instant := s.instant + 1 } := by
    rw [← hanswer]
    show EStateM.Result.ok (if w.done s.instant then _ else _) _ = _
    rw [hdone]
    rfl
  rw [Control.loadNetwork, EStateM.run_bind, hrun]
  refine ⟨_, _, rfl, fun _ _ x hx _ => ?_⟩
  rw [List.mem_singleton.mp hx]
  exact ⟨limit.retryAfter, rfl, hgiven⟩

/-- What parsing an entry leaves to report is in its error. -/
theorem parsed (w : WireEnv) (entry : WireEntry α) : (∀ step ∈ w.parseSteps entry, step.Silent w) ∨
    ∃ e, (w.parseEntryData entry).err = some e ∧ e.rateLimited = true ∧
      ∀ step ∈ w.parseSteps entry, step.Told w e := by
  rw [parseSteps, parseEntryData]
  cases entry.content with
  | invalid err => exact .inl (by simp)
  | plain data => exact .inl (by simp)
  | sealed record =>
    by_cases hempty : w.ring.isEmpty = true
    · exact .inl (by simp [hempty])
    simp only [hempty, Bool.false_eq_true, if_false, List.forall_mem_singleton]
    by_cases hsilent : (Step.decrypt record).Silent w
    · exact .inl hsilent
    · refine .inr ?_
      simp only [Step.Silent, not_forall, not_not] at hsilent
      obtain ⟨hregular, hsealed, x, hx, hlimit⟩ := hsilent
      obtain ⟨e, log, hdecrypt, hfatal, -⟩ := hregular.decrypt_error hx hlimit hsealed
      rw [hdecrypt]
      refine ⟨_, rfl, hfatal, fun _ _ y hy hylimit => ?_⟩
      obtain ⟨e', log', hdecrypt', -, hcarries⟩ := hregular.decrypt_error hy hylimit hsealed
      obtain ⟨rfl, -⟩ := EStateM.Result.error.inj (hdecrypt.symm.trans hdecrypt')
      exact hcarries

/-- The outcome of an entry loop, which returns its error. -/
def Outcome (w : WireEnv) (err : Option LoadError) (log : List Step) : Prop :=
  match err with
  | none => w.Quiet log
  | some e => w.ToldLast e log

/-- The log after an entry is parsed. -/
def Parsed (w : WireEnv) (err : Option LoadError) (log : List Step) : Prop :=
  w.Quiet log ∨ ∃ e, err = some e ∧ e.rateLimited = true ∧ w.ToldLast e log

theorem triple_record (entry : WireEntry α) :
    Triple (fun p => w.Quiet p.2) (record (w.parseSteps entry) : WireM Unit)
      (fun _ p => w.Parsed (w.parseEntryData entry).err p.2)
      (fun e p => w.ToldLast e p.2) := by
  apply Triple.modify
  intro p hp
  rcases w.parsed entry with hsilent | ⟨e, herr, hfatal, htold⟩
  · exact .inl (hp.append hsilent)
  · exact .inr ⟨e, herr, hfatal, p.2, _, rfl, hp, w.length_parseSteps entry, htold⟩

/-- An error that does not end the load has nothing to report. -/
theorem Parsed.silent {err : Option LoadError} {log : List Step} (h : w.Parsed err log)
    (hfatal : fatalError err = false) : w.Quiet log := by
  rcases h with h | ⟨e, rfl, hlimited, -⟩
  · exact h
  · rw [fatalError, Option.any_some, hlimited] at hfatal
    cases hfatal

theorem Parsed.outcome {err : Option LoadError} {log : List Step} (h : w.Parsed err log) :
    w.Outcome err log := by
  cases err with
  | none =>
    rcases h with h | ⟨e, he, -, -⟩
    · exact h
    · cases he
  | some e =>
    rcases h with h | ⟨e', he, -, htold⟩
    · exact h.toldLast e
    · rw [Option.some.inj he]
      exact htold

theorem triple_shouldAbort (err : Option LoadError) :
    Triple (fun p => w.Parsed err p.2) (lift (shouldAbortStateLoad w.loadEnv err) : WireM Bool)
      (fun abort p => w.Parsed err p.2 ∧ (abort = false → w.Quiet p.2))
      (fun e p => w.ToldLast e p.2) := by
  intro p hp
  refine ⟨hp, fun habort => hp.silent ?_⟩
  exact (Bool.or_eq_false_iff.mp habort).2

/-- A computation that does not fail and returns `a`. -/
def Returns (x : LoadM α) (a : α) : Prop :=
  Triple (fun _ => True) x (fun b _ => b = a) (fun _ _ => False)

theorem returns_storeNode (memberRecordID : String) (metadata : EntryMetadata) (node : NodeRecord) :
    Returns (storeNode memberRecordID metadata node) () := by
  rw [storeNode]
  split_ifs
  · exact Triple.modify fun _ _ => rfl
  · exact Triple.pure fun _ _ => rfl

theorem returns_loadNodeEntry (memberRecordID : String) (entry : Entry NodeRecord) :
    Returns (loadNodeEntry memberRecordID entry) entry.err := by
  rw [loadNodeEntry]
  cases entry.err with
  | some e =>
    refine Triple.bind (Q := fun _ _ => True) (.modify fun _ _ => trivial) fun _ => ?_
    refine Triple.bind (returns_storeNode _ _ _) fun _ => Triple.pure fun _ _ => rfl
  | none => exact Triple.bind (returns_storeNode _ _ _) fun _ => Triple.pure fun _ _ => rfl

/-- Where a child record is attached, and where it has no parent. -/
theorem returns_attach (env : LoadEnv) (parentID : String) (f : Nat → Loader → Loader) :
    Returns (do
      match parentNode env parentID (← get) with
      | some p =>
        modify (f p)
        pure none
      | none => pure none : LoadM (Option LoadError)) none := by
  intro s _
  simp only [EStateM.run_bind, EStateM.run_get]
  cases parentNode env parentID s with
  | some p => rfl
  | none => rfl

theorem returns_loadNodeInfoEntry (env : LoadEnv) (entry : Entry NodeInfoData) :
    Returns (loadNodeInfoEntry env entry) entry.err := by
  rw [loadNodeInfoEntry]
  cases entry.err with
  | some e => exact Triple.pure fun _ _ => rfl
  | none => exact returns_attach env _ _

theorem returns_loadEndpointEntry (env : LoadEnv) (entry : Entry EndpointData) :
    Returns (loadEndpointEntry env entry) entry.err := by
  rw [loadEndpointEntry]
  cases entry.err with
  | some e =>
    refine Triple.bind (Q := fun _ _ => True) (.modify fun _ _ => trivial) fun _ => ?_
    exact Triple.pure fun _ _ => rfl
  | none => exact returns_attach env _ _

theorem triple_loadEntries {handler : Entry α → LoadM (Option LoadError)}
    (h : ∀ entry, Returns (handler entry) entry.err) (entries : List (WireEntry α)) :
    Triple (fun p => w.Quiet p.2) (w.loadEntries handler entries)
      (fun err p => w.Outcome err p.2) (fun e p => w.ToldLast e p.2) := by
  induction entries with
  | nil => exact Triple.pure fun _ hp => hp
  | cons entry rest ih =>
    refine Triple.bind (surfaces_lift _) fun _ => ?_
    refine Triple.bind (triple_record entry) fun _ => ?_
    refine Triple.bind (Q := fun err p => w.Parsed err p.2) ?_ fun err => ?_
    · refine (Triple.lift (h _)).imp (fun _ hp => ⟨trivial, hp⟩) ?_ fun _ _ hp => hp.1.elim
      intro err p hp
      rw [hp.1]
      exact hp.2
    refine Triple.bind (triple_shouldAbort err) fun abort => ?_
    cases abort with
    | true => exact Triple.pure fun _ hp => hp.1.outcome
    | false => exact ih.of_pre fun _ hp => hp.2 rfl

theorem triple_loadParsedEntries (unreadable readable : Entry α → LoadM Unit)
    (entries : List (WireEntry α)) :
    Triple (fun p => w.Quiet p.2) (w.loadParsedEntries unreadable readable entries)
      (fun err p => w.Outcome err p.2) (fun e p => w.ToldLast e p.2) := by
  induction entries with
  | nil => exact Triple.pure fun _ hp => hp
  | cons entry rest ih =>
    refine Triple.bind (surfaces_lift _) fun _ => ?_
    refine Triple.bind (triple_record entry) fun _ => ?_
    cases (w.parseEntryData entry).err with
    | none =>
      refine Triple.of_pre (Triple.bind (surfaces_lift _) fun _ => ih) fun _ hp => ?_
      exact hp.silent rfl
    | some err =>
      refine Triple.bind (triple_shouldAbort (some err)) fun abort => ?_
      cases abort with
      | true => exact Triple.pure fun _ hp => hp.1.outcome
      | false => exact (Triple.bind (surfaces_lift _) fun _ => ih).of_pre fun _ hp => hp.2 rfl

theorem surfaces_readEntries {decrypting : String} {entries : List (WireEntry α)}
    {loop : List (WireEntry α) → WireM (Option LoadError)}
    (h : Triple (fun p => w.Quiet p.2) (loop entries)
      (fun err p => w.Outcome err p.2) (fun e p => w.ToldLast e p.2)) :
    w.Surfaces (readEntries decrypting entries loop) := by
  refine Surfaces.bind (surfaces_lift _) fun _ => ?_
  apply Triple.bind h
  intro err
  cases err with
  | none => exact Triple.pure fun _ hp => hp
  | some e => exact Triple.throw fun _ hp => hp

theorem surfaces_loadNodes : w.Surfaces w.loadNodes := by
  refine Surfaces.bind (surfaces_queryRequired _ _) fun entries => ?_
  refine Surfaces.bind (surfaces_lift _) fun _ => ?_
  exact surfaces_readEntries (triple_loadEntries (returns_loadNodeEntry _) entries)

theorem surfaces_loadMembers : w.Surfaces w.loadMembers := by
  refine Surfaces.bind (surfaces_queryOptional _ _ _) fun entries => ?_
  cases entries with
  | none => exact Surfaces.pure _
  | some entries =>
    refine Surfaces.bind (surfaces_lift _) fun _ => ?_
    exact surfaces_readEntries (triple_loadParsedEntries _ _ entries)

theorem surfaces_loadMemberNodesFrom (queries : List MemberNodeParentQuery) :
    w.Surfaces (w.loadMemberNodesFrom queries) := by
  induction queries with
  | nil => exact Surfaces.pure _
  | cons query rest ih =>
    refine Surfaces.bind (surfaces_queryOptional _ _ _) fun entries => ?_
    cases entries with
    | none => exact ih
    | some entries =>
      refine Surfaces.bind (surfaces_readEntries ?_) fun _ => ih
      exact triple_loadEntries (returns_loadNodeEntry _) entries

theorem surfaces_loadRelays : w.Surfaces w.loadRelays := by
  refine Surfaces.bind (surfaces_queryRequired _ _) fun entries => ?_
  refine Surfaces.bind (surfaces_lift _) fun _ => ?_
  exact surfaces_readEntries (triple_loadParsedEntries _ _ entries)

theorem surfaces_loadACL : w.Surfaces w.loadACL := by
  refine Surfaces.bind (surfaces_queryOptional _ _ _) fun entries => ?_
  rcases entries with _ | _ | ⟨entry, rest⟩
  · exact Surfaces.pure _
  · exact Surfaces.pure _
  · refine Triple.bind (triple_record entry) fun _ => ?_
    cases (w.parseEntryData entry).err with
    | none => exact (surfaces_lift _).of_pre fun _ hp => hp.silent rfl
    | some e =>
      refine Triple.bind (triple_shouldAbort (some e)) fun abort => ?_
      cases abort with
      | true => exact Triple.throw fun _ hp => hp.1.outcome
      | false => exact Triple.pure fun _ hp => hp.2 rfl

theorem surfaces_loadNodeChildRecords (stage : String) (ch : Nat → Channel α)
    {handler : Entry α → LoadM (Option LoadError)}
    (h : ∀ entry, Returns (handler entry) entry.err) (queries : List NodeChildRecordQuery) :
    w.Surfaces (w.loadNodeChildRecords stage ch handler queries) := by
  induction queries with
  | nil => exact Surfaces.pure _
  | cons query rest ih =>
    refine Surfaces.bind (surfaces_queryOptional _ _ _) fun entries => ?_
    cases entries with
    | none => exact ih
    | some entries =>
      exact Surfaces.bind (surfaces_readEntries (triple_loadEntries h entries)) fun _ => ih

theorem surfaces_loadSteps (cfg : ClientConfig) : w.Surfaces (w.loadSteps cfg) := by
  refine surfaces_loadNetwork.bind fun _ => ?_
  refine surfaces_loadNodes.bind fun _ => ?_
  refine surfaces_loadMembers.bind fun _ => ?_
  refine (surfaces_lift _).bind fun s₁ => ?_
  refine (surfaces_loadMemberNodesFrom _).bind fun _ => ?_
  refine surfaces_loadRelays.bind fun _ => ?_
  refine surfaces_loadACL.bind fun _ => ?_
  refine (surfaces_lift _).bind fun s₂ => ?_
  refine (surfaces_loadNodeChildRecords _ _ (returns_loadNodeInfoEntry _) _).bind fun _ => ?_
  refine (surfaces_lift _).bind fun s₃ => ?_
  refine (surfaces_loadNodeChildRecords _ _ (returns_loadEndpointEntry _) _).bind fun _ => ?_
  exact surfaces_lift _

/-- The one step of a failed load with something to report is its last. -/
theorem ToldLast.last {e : LoadError} {log : List Step} {step : Step} (h : w.ToldLast e log)
    (hstep : step ∈ log) (hsilent : ¬ step.Silent w) :
    ∃ old, log = old ++ [step] ∧ step ∉ old ∧ step.Told w e := by
  obtain ⟨old, new, rfl, hquiet, hlength, htold⟩ := h
  have hold : step ∉ old := fun hmem => hsilent (hquiet step hmem)
  have hnew := (List.mem_append.mp hstep).resolve_left hold
  cases new with
  | nil => cases hnew
  | cons first rest =>
    obtain rfl : rest = [] := List.length_eq_zero_iff.mp (by simpa using hlength)
    obtain rfl := List.mem_singleton.mp hnew
    exact ⟨old, rfl, hold, htold step hnew⟩

/-- A rate limit that a load meets is in the error of the load, with the delay that the server gave,
wherever the step is one of which the client can make out a rate limit. -/
theorem rate_limit_surfaces (cfg : ClientConfig) (w : WireEnv) (s : Loader) {step : Step}
    {x : Exchange} (hstep : step ∈ w.steps cfg s) (hregular : step.Regular w)
    (hsealed : step.decrypted w = false) (hx : x ∈ step.requests w)
    (hlimit : x.RateLimited w.codec) :
    ∃ e s', w.loadState cfg s = some (.error e s') ∧ e.Carries w.codec x := by
  have hall : Erases id (w.loadSteps cfg) (Control.loadSteps cfg w.loadEnv) := erases_loadSteps
  have herases := hall (s.start.stateSnapshot.2, [])
  have hquiet : w.Quiet [] := by simp [Quiet]
  have hsilent : ¬ step.Silent w := fun h => h hregular hsealed x hx hlimit
  rw [steps] at hstep
  have hlog := mem_of_mem_upTo hstep
  rw [loadState]
  rw [log] at hstep hlog ⊢
  cases hrun : (w.loadSteps cfg).run (s.start.stateSnapshot.2, []) with
  | ok resp p =>
    rw [hrun] at hlog
    exact absurd ((surfaces_loadSteps cfg).ok hquiet hrun step hlog) hsilent
  | error e p =>
    rw [hrun] at hstep hlog herases
    obtain ⟨old, hp, hold, htold⟩ := ((surfaces_loadSteps cfg).error hquiet hrun).last hlog hsilent
    simp only [hp] at hstep ⊢
    rw [any_of_mem_upTo hstep hregular.panics hold, loadState_error.mpr ⟨p.1, herases, rfl⟩]
    exact ⟨e, _, rfl, htold hregular hsealed x hx hlimit⟩

end WireEnv

/-! ### An anchor that limits its clients -/

/-- The anchor's two JSON-RPC responses: to the read of the network record, and to a client that it
limits. -/
def anchorCodec : Codec where
  jsonRpcResponse text :=
    if text = "network" then .ok { reply := some { entry := some "home" } }
    else .ok
      { reply := some { status := { code := 429, detail := "too many requests, retry after 30s" } } }
  retryAfterSec _ := .ok none
  httpTime _ := none
  caseMap := Dwn.StatusDetail.widthMap
  parseDuration text := if text = ascii "30s" then some (30 * second) else none

/-- A load that is answered so, at the read and at every query. -/
def anchorEnv (network query : Exchange) : WireEnv where
  primitives := Primitives.transparent
  codec := anchorCodec
  ring := { selfDID := "did:jwk:alice", anchorTenant := "did:jwk:alice" }
  done _ := false
  done_succ _ h := h
  ctxError := { canceled := true, message := "context canceled" }
  network := network
  networkEntry _ := { value := { name := "home", meshCIDR := "10.200.0.0/16" } }
  nodes := ⟨query, fun _ => .ok []⟩
  members := ⟨query, fun _ => .ok []⟩
  memberNodes _ := ⟨query, fun _ => .ok []⟩
  relays := ⟨query, fun _ => .ok []⟩
  acl := ⟨query, fun _ => .ok []⟩
  nodeInfo _ := ⟨query, fun _ => .ok []⟩
  endpoints _ := ⟨query, fun _ => .ok []⟩

/-- The network record. -/
def networkFound : Exchange := .answered { body := .ok "network" }

/-- HTTP 429, with the delay in the header. -/
def tooManyRequests : Exchange :=
  .answered { statusCode := 429, retryAfter := "30", body := .ok "network" }

/-- A reply with the status 429, and the delay in its detail. -/
def limitedReply : Exchange := .answered { body := .ok "limited" }

theorem tooManyRequests_reply : ¬ tooManyRequests.ReplyLimited anchorCodec := by
  intro h
  obtain ⟨status, hcode, rpcResp, reply, henv, -, hreply, rfl⟩ := h
  obtain rfl := Option.some.inj henv
  obtain rfl := Option.some.inj hreply
  exact absurd hcode (by decide)

theorem tooManyRequests_regular : tooManyRequests.Regular anchorCodec where
  body := ⟨_, rfl⟩
  header h := absurd rfl h
  fits delay hgives := by
    cases hgives with
    | header _ hnames =>
      cases hnames with
      | seconds hdec => decide
      | date hne hdec hdate => cases hdate
    | data _ hheader _ => exact absurd (.seconds (by decide)) (hheader _)
    | detail hreply _ => exact absurd ⟨_, hreply⟩ tooManyRequests_reply
  placed _ status hreply := absurd ⟨status, hreply⟩ tooManyRequests_reply
  keeps h := absurd (.inl rfl) h

theorem tooManyRequests_surfaces :
    ∃ e s', (anchorEnv networkFound tooManyRequests).loadState homeConfig homeClient =
      some (.error e s') ∧ e.retryAfter = some (30 * second) := by
  have hsteps : (anchorEnv networkFound tooManyRequests).steps homeConfig homeClient =
      [.read networkFound, .query tooManyRequests] := rfl
  have hstep : Step.query tooManyRequests ∈
      (anchorEnv networkFound tooManyRequests).steps homeConfig homeClient := by simp [hsteps]
  have hlimit : tooManyRequests.RateLimited anchorCodec := .inl (.inl rfl)
  have hgives : tooManyRequests.Gives anchorCodec (30 * second) :=
    .header (.inl rfl) (.seconds (by decide))
  obtain ⟨e, s', hload, delay, hdelay, hgiven⟩ :=
    WireEnv.rate_limit_surfaces homeConfig (anchorEnv networkFound tooManyRequests) homeClient hstep
      tooManyRequests_regular rfl (List.mem_singleton_self _) hlimit
  exact ⟨e, s', hload, hdelay.trans (congrArg some (hgiven _ hgives))⟩

/-- The same limit as a reply to the read of the network record: the error of the load has no rate
limit in it. -/
theorem limitedReply_lost :
    .read limitedReply ∈ (anchorEnv limitedReply limitedReply).steps homeConfig homeClient ∧
      limitedReply.RateLimited anchorCodec ∧ limitedReply.Gives anchorCodec (30 * second) ∧
      ∃ e s', (anchorEnv limitedReply limitedReply).loadState homeConfig homeClient =
        some (.error e s') ∧ e.rateLimited = false ∧ e.retryAfter = none := by
  have hsteps : (anchorEnv limitedReply limitedReply).steps homeConfig homeClient =
      [.read limitedReply] := rfl
  have hreply : HttpResponse.ReplyLimited anchorCodec { body := .ok "limited" }
      { code := 429, detail := "too many requests, retry after 30s" } :=
    ⟨rfl, _, _, rfl, rfl, rfl, rfl⟩
  refine ⟨hsteps ▸ List.mem_singleton_self _, .inr ⟨_, hreply⟩, .detail hreply (by decide +kernel),
    ?_⟩
  exact ⟨_, _, rfl, rfl, rfl⟩

end Meshd.Control

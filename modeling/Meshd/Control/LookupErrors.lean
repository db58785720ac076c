import Meshd.Control.WireLoad

namespace Meshd.Control

open Meshd.Framework Meshd.Dwn.Crypto
open Meshd.Dwn (Codec Exchange)

/-- What `errors.As` finds in the error is a rate limit with the delay that the server gave. -/
def LoadError.Carries (codec : Codec) (e : LoadError) (x : Exchange) : Prop :=
  ∃ delay, e.retryAfter = some delay ∧ ∀ given, x.Gives codec given → delay = given

/-! ### The lookups of a record -/

/-- The errors tell of every limited request in the log that the client can make out, and of no
others. -/
structure Reported (codec : Codec) (errs : List LoadError) (log : List Exchange) : Prop where
  limited : ∀ x ∈ log, x.Regular codec → x.RateLimited codec →
    ∃ e ∈ errs, e.rateLimited = true ∧ e.retryAfter.isSome = true
  sound : ∀ e ∈ errs, ∀ delay, e.retryAfter = some delay →
    ∃ x ∈ log, x.RateLimited codec ∧
      (x.Regular codec → ∀ given, x.Gives codec given → delay = given)

/-- A computation whose error, if it fails, tells of the requests it sent. -/
def Reports (codec : Codec) {α : Type} (x : LookupM α) : Prop :=
  ∀ errs, Triple (Reported codec errs) x (fun _ => Reported codec errs)
    (fun e => Reported codec (errs ++ [e]))

section Lookups
variable {codec : Codec} {errs errs' : List LoadError} {log : List Exchange} {e e' : LoadError}
  {α β : Type}

theorem reported_nil : Reported codec [] [] where
  limited := by simp
  sound := by simp

/-- More errors are no harm where they carry no delay. -/
theorem Reported.append (h : Reported codec errs log) (hnone : ∀ e ∈ errs', e.retryAfter = none) :
    Reported codec (errs ++ errs') log where
  limited x hx hregular hlimit := by
    obtain ⟨e, he, hfound⟩ := h.limited x hx hregular hlimit
    exact ⟨e, List.mem_append_left _ he, hfound⟩
  sound e he delay hdelay := by
    rcases List.mem_append.mp he with he | he
    · exact h.sound e he delay hdelay
    · rw [hnone e he] at hdelay
      cases hdelay

theorem Reported.add_plain (h : Reported codec errs log) (hnone : e.retryAfter = none) :
    Reported codec (errs ++ [e]) log :=
  h.append fun _ he => (List.mem_singleton.mp he).symm ▸ hnone

/-- `errors.Is` and `errors.As` see through the wrapping of an error. -/
theorem Reported.wrap (h : Reported codec (errs ++ [e]) log) (context : String) :
    Reported codec (errs ++ [e.wrap context]) log where
  limited x hx hregular hlimit := by
    obtain ⟨e', he', hfound⟩ := h.limited x hx hregular hlimit
    rcases List.mem_append.mp he' with he' | he'
    · exact ⟨e', List.mem_append_left _ he', hfound⟩
    · obtain rfl := List.mem_singleton.mp he'
      exact ⟨e'.wrap context, by simp, hfound⟩
  sound e' he' delay hdelay := by
    rcases List.mem_append.mp he' with he' | he'
    · exact h.sound e' (List.mem_append_left _ he') delay hdelay
    · obtain rfl := List.mem_singleton.mp he'
      exact h.sound e (by simp) delay hdelay

/-- The joined error tells of what its parts tell of. -/
theorem Reported.join (h : Reported codec errs log) (context : String) :
    Reported codec [(LoadError.join errs).wrap context] log where
  limited x hx hregular hlimit := by
    obtain ⟨e, he, hlimited, hdelay⟩ := h.limited x hx hregular hlimit
    refine ⟨_, List.mem_singleton_self _, List.any_eq_true.mpr ⟨e, he, hlimited⟩, ?_⟩
    exact List.findSome?_isSome_iff.mpr ⟨e, he, hdelay⟩
  sound e he delay hdelay := by
    obtain rfl := List.mem_singleton.mp he
    obtain ⟨e, he, hfound⟩ := List.exists_of_findSome?_eq_some hdelay
    exact h.sound e he delay hfound

theorem Reports.pure (a : α) : Reports codec (pure a : LookupM α) :=
  fun _ => Triple.pure fun _ h => h

theorem Reports.throw (h : e.retryAfter = none) : Reports codec (throw e : LookupM α) :=
  fun _ => Triple.throw fun _ hs => hs.add_plain h

theorem Reports.ofExcept {x : Except LoadError α} (h : ∀ e, x = .error e → e.retryAfter = none) :
    Reports codec (ofExcept x : LookupM α) := by
  cases x with
  | ok a => exact Reports.pure a
  | error e => exact Reports.throw (h e rfl)

theorem reports_mapError_plain (x : Except String α) :
    Reports codec (ofExcept (x.mapError LoadError.plain) : LookupM α) := by
  apply Reports.ofExcept
  intro e he
  obtain ⟨message, -, rfl⟩ := mapError_eq_error.mp he
  rfl

theorem Reports.bind {x : LookupM α} {f : α → LookupM β} (hx : Reports codec x)
    (hf : ∀ a, Reports codec (f a)) : Reports codec (x >>= f) :=
  fun errs => (hx errs).bind fun a => hf a errs

theorem Reports.get {f : List Exchange → LookupM α} (hf : ∀ log, Reports codec (f log)) :
    Reports codec (get >>= f) :=
  fun errs log hlog => hf log errs log hlog

theorem triple_wrapping {x : LookupM α} {Q : α → List Exchange → Prop}
    (h : Triple (Reported codec errs) x Q (fun e => Reported codec (errs ++ [e])))
    (context : String) :
    Triple (Reported codec errs) (wrapping context x) Q
      (fun e => Reported codec (errs ++ [e])) := by
  apply h.attempt_bind
  · intro a
    exact Triple.pure fun _ hs => hs
  · intro e
    exact Triple.throw fun _ hs => hs.wrap context

theorem Reports.wrapping {x : LookupM α} (h : Reports codec x) (context : String) :
    Reports codec (wrapping context x) :=
  fun errs => triple_wrapping (h errs) context

/-- A reply that a query leaves to its caller. -/
def Unlimited (reply : Option Dwn.Reply) : Prop :=
  ∀ r, reply = some r → r.status.code ≠ Dwn.statusTooManyRequests

theorem unlimited_of_ok {x : Exchange} {reply : Option Dwn.Reply}
    (h : Dwn.recordsQueryWithAuth codec x = some (.ok reply)) : Unlimited reply := by
  intro r hr hcode
  subst hr
  rw [Dwn.recordsQueryWithAuth] at h
  split at h
  · split_ifs at h with hne
    · simp at h
    · obtain rfl := Option.some.inj (Except.ok.inj (Option.some.inj h))
      exact hne hcode
  · next hother => exact hother r (Option.some.inj h)

/-- A request that was answered, with the errors that come of it. -/
theorem Reported.answered {x : Exchange} (h : Reported codec errs log)
    (hlimited : x.Regular codec → x.RateLimited codec →
      ∃ e ∈ errs', e.rateLimited = true ∧ e.retryAfter.isSome = true)
    (hsound : ∀ e ∈ errs', ∀ delay, e.retryAfter = some delay →
      x.RateLimited codec ∧ (x.Regular codec → ∀ given, x.Gives codec given → delay = given)) :
    Reported codec (errs ++ errs') (log ++ [x]) where
  limited y hy hregular hlimit := by
    rcases List.mem_append.mp hy with hy | hy
    · obtain ⟨e, he, hfound⟩ := h.limited y hy hregular hlimit
      exact ⟨e, List.mem_append_left _ he, hfound⟩
    · obtain rfl := List.mem_singleton.mp hy
      obtain ⟨e, he, hfound⟩ := hlimited hregular hlimit
      exact ⟨e, List.mem_append_right _ he, hfound⟩
  sound e he delay hdelay := by
    rcases List.mem_append.mp he with he | he
    · obtain ⟨y, hy, hfound⟩ := h.sound e he delay hdelay
      exact ⟨y, List.mem_append_left _ hy, hfound⟩
    · exact ⟨x, by simp, hsound e he delay hdelay⟩

theorem ofSend_retryAfter {sendErr : Dwn.SendError} {delay : Duration}
    (h : (LoadError.ofSend sendErr).retryAfter = some delay) :
    ∃ limit, sendErr = .rateLimit limit ∧ limit.retryAfter = delay := by
  cases sendErr with
  | connection message canceled deadlineExceeded => cases h
  | transport message => cases h
  | rpc rpcErr => cases h
  | rateLimit limit => exact ⟨limit, rfl, Option.some.inj h⟩

theorem triple_request (x : Exchange) : Triple (Reported codec errs) (request codec x)
    (fun reply s => Reported codec errs s ∧ Unlimited reply)
    (fun e => Reported codec (errs ++ [e])) := by
  refine Triple.bind (Q := fun _ s => ∃ log, Reported codec errs log ∧ s = log ++ [x])
    (.modify fun log h => ⟨log, h, rfl⟩) fun _ => ?_
  cases hresult : Dwn.recordsQueryWithAuth codec x with
  | none =>
    refine Triple.throw fun s hs => ?_
    obtain ⟨log, h, rfl⟩ := hs
    refine h.answered (fun hregular _ => ?_) (by simp [LoadError.plain])
    have hsome := Dwn.recordsQueryWithAuth_isSome hregular
    rw [hresult] at hsome
    cases hsome
  | some result => ?_
  apply Triple.ofExcept
  · intro reply hok s hs
    obtain ⟨log, h, rfl⟩ := hs
    have hquery : Dwn.recordsQueryWithAuth codec x = some (.ok reply) :=
      hresult.trans (congrArg some (mapError_eq_ok.mp hok))
    refine ⟨?_, unlimited_of_ok hquery⟩
    rw [← List.append_nil errs]
    refine h.answered (fun hregular hlimit => ?_) (by simp)
    obtain ⟨limit, hlimited, -⟩ := Dwn.recordsQueryWithAuth_limited hregular hlimit
    rw [hlimited] at hquery
    cases hquery
  · intro e herr s hs
    obtain ⟨log, h, rfl⟩ := hs
    obtain ⟨sendErr, rfl, rfl⟩ := mapError_eq_error.mp herr
    refine h.answered (fun hregular hlimit => ?_) (fun e he delay hdelay => ?_)
    · obtain ⟨limit, hlimited, -⟩ := Dwn.recordsQueryWithAuth_limited hregular hlimit
      obtain rfl : sendErr = .rateLimit limit :=
        Except.error.inj (Option.some.inj (hresult.symm.trans hlimited))
      exact ⟨_, List.mem_singleton_self _, rfl, rfl⟩
    · obtain rfl := List.mem_singleton.mp he
      obtain ⟨limit, rfl, hlimit⟩ := ofSend_retryAfter hdelay
      refine ⟨Dwn.limited_of_recordsQueryWithAuth hresult, fun hregular given hgives => ?_⟩
      obtain ⟨limit', hlimited, hgiven⟩ := Dwn.recordsQueryWithAuth_limited hregular
        (Dwn.limited_of_recordsQueryWithAuth hresult)
      have hsame : Dwn.SendError.rateLimit limit = .rateLimit limit' :=
        Except.error.inj (Option.some.inj (hresult.symm.trans hlimited))
      rw [← hlimit, Dwn.SendError.rateLimit.inj hsame, hgiven given hgives]

/-- The entries of a reply that is no rate limit can fail to parse, but not by one. -/
theorem lookupEntries_plain {decode : String → Except String (List (Option β))}
    {reply : Option Dwn.Reply} (h : Unlimited reply) (e : LoadError)
    (herr : lookupEntries codec decode reply = .error e) : e.retryAfter = none := by
  rw [lookupEntries] at herr
  cases reply with
  | none =>
    obtain rfl := Except.error.inj herr
    rfl
  | some reply =>
    have hcode : reply.status.code ≠ 429 := h reply rfl
    simp only [Option.map_some, queryEntries, DwnReply.ofReply, if_neg hcode] at herr
    split_ifs at herr
    · obtain rfl := Except.error.inj herr
      rfl
    · cases hraw : reply.entries with
      | none =>
        rw [hraw] at herr
        cases herr
      | some raw =>
        simp only [hraw] at herr
        cases hdecode : decode raw with
        | ok values =>
          rw [hdecode] at herr
          cases herr
        | error message =>
          rw [hdecode] at herr
          obtain rfl := Except.error.inj herr
          rfl

/-- A query and the parsing of its entries. -/
theorem reports_entries {x : LookupM (Option Dwn.Reply)}
    (h : ∀ errs, Triple (Reported codec errs) x (fun reply s => Reported codec errs s ∧ Unlimited reply)
      (fun e => Reported codec (errs ++ [e])))
    (querying parsing : String) (decode : String → Except String (List (Option β))) :
    Reports codec (do
      let reply ← wrapping querying x
      wrapping parsing (ofExcept (lookupEntries codec decode reply))) := by
  intro errs
  apply (triple_wrapping (h errs) querying).bind
  intro reply s hs
  exact ((Reports.ofExcept (lookupEntries_plain hs.2)).wrapping parsing) errs s hs.1

theorem reports_audienceByKeyID (lookup : Lookup) (info : RoleAudienceInfo) :
    Reports codec (audienceByKeyID codec lookup info) := by
  rw [audienceByKeyID]
  split
  · exact Reports.pure _
  · refine Reports.bind (reports_entries (fun errs => triple_request _) _ _ _) fun keys => ?_
    cases keys with
    | nil => exact Reports.throw rfl
    | cons key rest => exact Reports.pure key

theorem triple_queryDeliveryRecordsWithRetry {lookup : Lookup} (h : lookup.interrupted = none) :
    Triple (Reported codec errs) (queryDeliveryRecordsWithRetry codec lookup)
      (fun reply s => Reported codec errs s ∧ Unlimited reply)
      (fun e => Reported codec (errs ++ [e])) := by
  rw [queryDeliveryRecordsWithRetry]
  split
  · split_ifs
    · exact triple_request _
    · rw [h]
      exact triple_request _
  · exact triple_request _

variable {c : Primitives} {ring : KeyRing} {record : SealedRecord}

theorem reports_audiencePrivateKeyByKeyID (info : RoleAudienceInfo) :
    Reports codec (record.audiencePrivateKeyByKeyID c codec ring info) := by
  rw [SealedRecord.audiencePrivateKeyByKeyID]
  split_ifs
  · exact Reports.throw rfl
  · apply Reports.get
    intro log
    exact Reports.bind (reports_audienceByKeyID _ info) fun rec => reports_mapError_plain _

theorem reports_deliveredAudienceKey
    (h : ∀ n info, (record.lookups n info).interrupted = none) (info : RoleAudienceInfo) :
    Reports codec (record.deliveredAudienceKey codec ring info) := by
  have hquery (lookup : Lookup) (hl : lookup.interrupted = none) :
      Reports codec (queryDeliveryAudiencePrivateKey codec ring lookup info) := by
    rw [queryDeliveryAudiencePrivateKey]
    split_ifs
    · exact Reports.throw rfl
    · rw [← bind_assoc]
      refine Reports.bind (reports_entries (fun errs => ?_) _ _ _) fun keys => ?_
      · exact triple_queryDeliveryRecordsWithRetry hl
      · cases keys with
        | nil => exact Reports.throw rfl
        | cons key rest => exact Reports.pure key
  apply Reports.get
  intro log
  dsimp only
  cases (record.lookups log.length info).cachedKey with
  | some privateKey => exact Reports.pure privateKey
  | none =>
    refine Reports.bind (hquery _ (h _ _)) fun privateKey => ?_
    split_ifs
    · exact Reports.throw rfl
    · exact Reports.pure privateKey

/-- A key that the audience source returns is one that its decrypter takes. -/
theorem triple_audiencePrivateKeyByKeyID (info : RoleAudienceInfo) :
    Triple (fun _ => True) (record.audiencePrivateKeyByKeyID c codec ring info)
      (fun key _ => ∃ dec, newRoleAudienceDecrypter c key = .ok dec) (fun _ _ => True) := by
  rw [SealedRecord.audiencePrivateKeyByKeyID]
  split_ifs
  · exact Triple.throw fun _ _ => trivial
  · refine Triple.bind Triple.trivial fun n => Triple.bind Triple.trivial fun rec => ?_
    apply Triple.ofExcept
    · intro key hkey s _
      rw [mapError_eq_ok, unsealAudienceRecord, bind_eq_ok] at hkey
      obtain ⟨priv, -, hkey⟩ := hkey
      obtain ⟨pub, hpub, hkey⟩ := bind_eq_ok.mp hkey
      obtain ⟨-, hkey⟩ := ite_error_eq_ok.mp hkey
      obtain rfl := Except.ok.inj hkey
      exact ⟨_, by rw [newRoleAudienceDecrypter, hpub]; rfl⟩
    · intro e _ s _
      trivial

/-! ### The chain of a record's keys -/

/-- The routes of a client whose lookups tell of their requests. -/
structure Reader.Telling (codec : Codec) (c : Primitives) (k : Reader (List Exchange)) :
    Prop where
  source : ∀ source info, k.audienceSource = some source → Reports codec (source info)
  key : ∀ source info, k.audienceSource = some source → Triple (fun _ => True) (source info)
    (fun key _ => ∃ dec, newRoleAudienceDecrypter c key = .ok dec) (fun _ _ => True)
  delivered : ∀ info, Reports codec (k.deliveredAudienceKey info)

variable {k : Reader (List Exchange)} {ciphertext : Bytes} {enc : Option Encryption}

theorem reports_decryptViaDelivery (h : k.Telling codec c) (info : RoleAudienceInfo) :
    Reports codec (k.decryptViaDelivery c ciphertext enc info) := by
  refine (h.delivered info).bind fun privateKey => ?_
  refine Reports.bind (Reports.ofExcept ?_) fun dec => reports_mapError_plain _
  intro e he
  obtain ⟨message, -, rfl⟩ := mapError_eq_error.mp he
  rfl

theorem triple_trySeal (h : k.Telling codec c) (info : RoleAudienceInfo) :
    Triple (Reported codec errs) (k.trySeal c ciphertext enc info)
      (fun result s => ∀ sealErrs, result = .error sealErrs → Reported codec (errs ++ sealErrs) s)
      (fun _ _ => False) := by
  cases hs : k.audienceSource with
  | none =>
    simp only [Reader.trySeal, hs]
    refine Triple.pure fun log hlog sealErrs hresult => ?_
    obtain rfl := Except.error.inj hresult
    rwa [List.append_nil]
  | some source =>
    simp only [Reader.trySeal, hs, Reader.decryptViaSeal, bind_assoc]
    have hsource : Triple (Reported codec errs) (source info)
        (fun key log => Reported codec errs log ∧ ∃ dec, newRoleAudienceDecrypter c key = .ok dec)
        (fun e log => Reported codec (errs ++ [e]) log ∧ True) :=
      ((h.source source info hs errs).and (h.key source info hs)).of_pre fun _ hlog => ⟨hlog, trivial⟩
    apply hsource.attempt_bind
    · intro key
      simp only [bind_assoc, pure_bind]
      refine Triple.bind (Q := fun _ => Reported codec errs) (Triple.ofExcept ?_ ?_) fun dec => ?_
      · intro dec _ log hlog
        exact hlog.1
      · intro e he log hlog
        obtain ⟨dec, hdec⟩ := hlog.2
        rw [hdec] at he
        cases he
      · refine Triple.pure fun log hlog sealErrs hresult => ?_
        obtain ⟨e, he, rfl⟩ := mapError_eq_error.mp hresult
        obtain ⟨message, -, rfl⟩ := mapError_eq_error.mp he
        exact hlog.add_plain rfl
    · intro e
      simp only [pure_bind]
      refine Triple.pure fun log hlog sealErrs hresult => ?_
      obtain rfl := Except.error.inj hresult
      exact hlog.1.wrap _

theorem triple_tryInfos (h : k.Telling codec c) (infos : List RoleAudienceInfo) :
    Triple (Reported codec errs) (k.tryInfos c ciphertext enc errs infos) (fun _ _ => True)
      (fun e => Reported codec [e]) := by
  induction infos generalizing errs with
  | nil => exact Triple.throw fun _ hlog => hlog.join _
  | cons info rest ih =>
    refine Triple.bind ((triple_trySeal h info).imp (fun _ hlog => hlog) (fun _ _ hlog => hlog)
      fun _ _ hfalse => hfalse.elim) fun sealed => ?_
    cases sealed with
    | ok plaintext => exact Triple.pure fun _ _ => trivial
    | error sealErrs =>
      have hdelivery : Triple (Reported codec (errs ++ sealErrs))
          (k.decryptViaDelivery c ciphertext enc info) (fun _ _ => True)
          (fun e => Reported codec (errs ++ sealErrs ++ [e])) :=
        (reports_decryptViaDelivery h info _).imp (fun _ hlog => hlog) (fun _ _ _ => trivial)
          (fun _ _ hlog => hlog)
      apply (hdelivery.of_pre fun _ hlog => hlog sealErrs rfl).attempt_bind
      · intro plaintext
        exact Triple.pure fun _ _ => trivial
      · intro e
        exact ih.of_pre fun log hlog => hlog.wrap _

/-- A failed fallback leaves the error of the role audience, or else one of its own. -/
theorem decryptFallback_error {protocolPath : String} {err : Option LoadError}
    (h : k.decryptFallback c ciphertext enc protocolPath err = .error e) :
    err = some e ∨ err = none ∧ e.retryAfter = none := by
  have hget (message : String) (he : err.getD (.plain message) = e) :
      err = some e ∨ err = none ∧ e.retryAfter = none := by
    cases err with
    | none => exact .inr ⟨rfl, he ▸ rfl⟩
    | some err => exact .inl (congrArg some he)
  rw [Reader.decryptFallback] at h
  split at h
  · exact hget _ (Except.error.inj h)
  · obtain ⟨message, -, he⟩ := mapError_eq_error.mp h
    exact hget message he

theorem triple_decryptByRole (h : k.Telling codec c) (protocolPath : String) :
    Triple (Reported codec []) (k.decryptByRole c ciphertext enc protocolPath) (fun _ _ => True)
      (fun e => Reported codec [e]) := by
  simp only [Reader.decryptByRole]
  split_ifs
  · refine Triple.ofExcept (fun _ _ _ _ => trivial) fun e he log hlog => ?_
    rcases decryptFallback_error he with hsome | ⟨-, hnone⟩
    · cases hsome
    · exact hlog.add_plain hnone
  · apply (triple_tryInfos h _).attempt_bind
    · intro plaintext
      exact Triple.pure fun _ _ => trivial
    · intro e
      refine Triple.ofExcept (fun _ _ _ _ => trivial) fun e' he' log hlog => ?_
      rcases decryptFallback_error he' with hsome | ⟨hnone, -⟩
      · rw [← Option.some.inj hsome]
        exact hlog
      · cases hnone

theorem triple_decryptEntry (h : k.Telling codec c) (protocolPath : String) :
    Triple (Reported codec []) (k.decryptEntry c ciphertext enc protocolPath) (fun _ _ => True)
      (fun e => Reported codec [e]) := by
  rw [Reader.decryptEntry]
  split
  · exact (reports_mapError_plain _ []).imp (fun _ hlog => hlog) (fun _ _ _ => trivial)
      (fun _ _ hlog => hlog)
  · split
    · exact Triple.pure fun _ _ => trivial
    · exact triple_decryptByRole h protocolPath

end Lookups

namespace SealedRecord

variable (c : Primitives) (codec : Codec) (ring : KeyRing) (record : SealedRecord)

/-- The lookups of the record get answers that the client can make out, no context ends while one
of them waits for its retry, and where several of them are limited, the server gives them one
delay. -/
structure Regular : Prop where
  answers : ∀ x ∈ record.requests c codec ring, x.Regular codec
  uninterrupted : ∀ n info, (record.lookups n info).interrupted = none
  agree : ∀ x ∈ record.requests c codec ring, ∀ y ∈ record.requests c codec ring,
    x.RateLimited codec → y.RateLimited codec → ∀ delay, x.Gives codec delay → y.Gives codec delay

variable {c codec ring record}

theorem telling_routes (h : ∀ n info, (record.lookups n info).interrupted = none) :
    (record.routes c codec ring).Telling codec c := by
  have hsource {source : RoleAudienceInfo → LookupM Bytes}
      (hs : (record.routes c codec ring).audienceSource = some source) :
      source = record.audiencePrivateKeyByKeyID c codec ring := by
    simp only [routes] at hs
    split_ifs at hs
    exact (Option.some.inj hs).symm
  refine ⟨?_, ?_, reports_deliveredAudienceKey h⟩
  · intro source info hs
    rw [hsource hs]
    exact reports_audiencePrivateKeyByKeyID info
  · intro source info hs
    rw [hsource hs]
    exact triple_audiencePrivateKeyByKeyID info

/-- A limited lookup of a record that is not decrypted is in the error of the decryption. -/
theorem Regular.decrypt_error (h : record.Regular c codec ring) {x : Exchange}
    (hx : x ∈ record.requests c codec ring) (hlimit : x.RateLimited codec)
    (hfailed : record.decrypted c codec ring = false) :
    ∃ e log, record.decrypt c codec ring = .error e log ∧ e.rateLimited = true ∧
      e.Carries codec x := by
  cases hrun : record.decrypt c codec ring with
  | ok plaintext log => simp [decrypted, hrun] at hfailed
  | error e log =>
    have hlog : record.requests c codec ring = log := by simp [requests, hrun]
    have hreported : Reported codec [e] log :=
      (triple_decryptEntry (telling_routes h.uninterrupted) record.protocolPath).error reported_nil hrun
    rw [hlog] at hx
    obtain ⟨e', he', hlimited, hsome⟩ :=
      hreported.limited x hx (h.answers x (hlog ▸ hx)) hlimit
    obtain rfl := List.mem_singleton.mp he'
    obtain ⟨delay, hdelay⟩ := Option.isSome_iff_exists.mp hsome
    obtain ⟨y, hy, hylimit, hygives⟩ := hreported.sound e' he' delay hdelay
    refine ⟨e', log, rfl, hlimited, delay, hdelay, fun given hgiven => ?_⟩
    have hagree := h.agree x (hlog ▸ hx) y (hlog ▸ hy) hlimit hylimit given hgiven
    exact hygives (h.answers y (hlog ▸ hy)) given hagree

end SealedRecord

end Meshd.Control

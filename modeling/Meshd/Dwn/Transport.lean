import Meshd.Dwn.StatusDetail
import Meshd.Framework.Decimal
import Meshd.Framework.Fallible

namespace Meshd.Dwn

open Meshd.Framework StatusDetail

/-! How the client reads a response of the server. -/

def statusTooManyRequests : Nat := 429

def jsonRpcTooManyRequests : Int := -50429

def defaultRateLimitRetryAfter : Duration := second

structure RateLimitError where
  retryAfter : Duration
  detail : String

/-- The text of the error. -/
def RateLimitError.error (e : RateLimitError) : String :=
  if e.detail = "" then "rate limited" else "rate limited: " ++ e.detail

structure Status where
  code : Nat := 200
  detail : String := ""

/-- A DWN reply, as far as a load reads it. The members that are raw JSON may be absent. -/
structure Reply where
  status : Status := {}
  entries : Option String := none
  entry : Option String := none

/-- A JSON-RPC error; absent data is the empty text. -/
structure RpcError where
  code : Int
  message : String := ""
  data : String := ""

/-- A JSON-RPC response, with the reply of its result. -/
structure RpcResponse where
  reply : Option Reply := none
  error : Option RpcError := none

/-- An HTTP response: the status, the two headers the client reads, the body or why it could not be
read, and the clock at that time. -/
structure HttpResponse where
  statusCode : Nat := 200
  retryAfter : String := ""
  dwnResponse : String := ""
  body : Except String String
  receivedAt : Time := 0

/-- The decoders of the standard library. -/
structure Codec where
  /-- `json.Unmarshal` into a `RpcResponse` -/
  jsonRpcResponse : String → Except String RpcResponse
  /-- `json.Unmarshal` of the member `retryAfterSec` -/
  retryAfterSec : String → Except String (Option Int)
  /-- `http.ParseTime` -/
  httpTime : String → Option Time
  /-- `unicode.ToLower` -/
  caseMap : CaseMap
  /-- `time.ParseDuration` -/
  parseDuration : Bytes → Option Duration

/-- How one request ends: without a response, or with one. -/
inductive Exchange where
  | failed (message : String) (canceled deadlineExceeded : Bool)
  | answered (resp : HttpResponse)

/-- The errors of a request. -/
inductive SendError where
  | connection (message : String) (canceled deadlineExceeded : Bool)
  | transport (message : String)
  | rpc (e : RpcError)
  | rateLimit (e : RateLimitError)

/-- `strconv.ParseUint(text, 10, 64)`. -/
def parseUint (text : List Char) : Option Nat :=
  if Decimal text ∧ decimalValue text < 2 ^ 64 then some (decimalValue text) else none

def retryAfterSeconds (seconds : Nat) : Option Duration :=
  if (seconds : Int) > maxDuration / second then none else some (seconds * second)

section Client
variable (codec : Codec)

def parseRetryAfter (value : String) (now : Time) : Option Duration :=
  let value := trimSpace value.toList
  if value = [] then none
  else match parseUint value with
    | some seconds => retryAfterSeconds seconds
    | none => (codec.httpTime (String.ofList value)).map fun retryAt => max 0 (timeSub retryAt now)

def retryAfterFromRPCData (raw : String) : Option Duration :=
  if raw = "" then none
  else match codec.retryAfterSec raw with
    | .ok (some seconds) => if seconds < 0 then none else retryAfterSeconds seconds.toNat
    | _ => none

def newRateLimitError (resp : HttpResponse) (rpcErr : Option RpcError)
    (fallbackDetail : String) : RateLimitError where
  retryAfter :=
    match parseRetryAfter codec resp.retryAfter resp.receivedAt with
    | some retryAfter => retryAfter
    | none =>
      (rpcErr.bind fun e => retryAfterFromRPCData codec e.data).getD defaultRateLimitRetryAfter
  detail :=
    match rpcErr with
    | some e =>
      let message := trimSpace e.message.toList
      if message = [] then fallbackDetail else String.ofList message
    | none => fallbackDetail

/-- The JSON-RPC response stands in the `dwn-response` header, if there is one, and the data of the
record in the body; otherwise the body is the JSON-RPC response. -/
def parseResponse (resp : HttpResponse) : Except SendError (Option Reply) :=
  if resp.dwnResponse ≠ "" then
    match codec.jsonRpcResponse resp.dwnResponse with
    | .error e => .error (.transport ("parsing dwn-response header: " ++ e))
    | .ok rpcResp =>
      match rpcResp.error with
      | some rpcErr =>
        if rpcErr.code = jsonRpcTooManyRequests ∨ resp.statusCode = statusTooManyRequests then
          .error (.rateLimit (newRateLimitError codec resp (some rpcErr) ""))
        else .error (.rpc rpcErr)
      | none =>
        if resp.statusCode = statusTooManyRequests then
          .error (.rateLimit (newRateLimitError codec resp none "HTTP 429"))
        else match resp.body with
          | .error e => .error (.transport ("reading response data: " ++ e))
          | .ok _ => .ok rpcResp.reply
  else
    match resp.body with
    | .error e => .error (.transport ("reading response body: " ++ e))
    | .ok respBody =>
      let parsed := codec.jsonRpcResponse respBody
      -- A limiter in front of the server may answer without a JSON-RPC envelope.
      if resp.statusCode = statusTooManyRequests then
        let rpcErr := parsed.toOption.bind (·.error)
        let text := trimSpace respBody.toList
        let detail :=
          if rpcErr.isNone ∧ text ≠ [] then "HTTP 429: " ++ String.ofList text else "HTTP 429"
        .error (.rateLimit (newRateLimitError codec resp rpcErr detail))
      else match parsed with
        | .error e =>
          .error (.transport ("parsing response body (HTTP " ++ toString resp.statusCode ++ "): " ++
            respBody ++ ": " ++ e))
        | .ok rpcResp =>
          match rpcResp.error with
          | some rpcErr =>
            if rpcErr.code = jsonRpcTooManyRequests then
              .error (.rateLimit (newRateLimitError codec resp (some rpcErr) ""))
            else .error (.rpc rpcErr)
          | none => .ok rpcResp.reply

/-- `Send`, and with it `RecordsReadWithAuth`, which returns the reply as it is. -/
def send : Exchange → Except SendError (Option Reply)
  | .failed message canceled deadlineExceeded =>
    .error (.connection message canceled deadlineExceeded)
  | .answered resp => parseResponse codec resp

/-- The error of a limited reply; `none` is the panic of `retryAfterFromStatusDetail`. -/
def queryRateLimitError (status : Status) : Option RateLimitError :=
  let trimmed := trimSpace status.detail.toList
  (retryAfterFromStatusDetail codec.caseMap codec.parseDuration status.detail).map fun parsed =>
    { retryAfter := parsed.getD defaultRateLimitRetryAfter
      detail := "query failed: " ++ toString status.code ++
        (if trimmed = [] then "" else " " ++ String.ofList trimmed) }

/-- A query turns a reply that is a rate limit into an error. It may panic on that reply. -/
def recordsQueryWithAuth (exchange : Exchange) : Option (Except SendError (Option Reply)) :=
  match send codec exchange with
  | .ok (some reply) =>
    if reply.status.code = statusTooManyRequests then
      (queryRateLimitError codec reply.status).map fun e => .error (.rateLimit e)
    else some (.ok (some reply))
  | result => some result

end Client

/-! ### What the server says -/

section Spec
variable (codec : Codec) (resp : HttpResponse)

/-- The JSON-RPC response, where one can be read. -/
def HttpResponse.envelope : Option RpcResponse :=
  if resp.dwnResponse ≠ "" then (codec.jsonRpcResponse resp.dwnResponse).toOption
  else resp.body.toOption.bind fun text => (codec.jsonRpcResponse text).toOption

/-- The request is limited by HTTP, or by JSON-RPC. -/
def HttpResponse.TransportLimited : Prop :=
  resp.statusCode = statusTooManyRequests ∨
    ∃ rpcResp rpcErr, resp.envelope codec = some rpcResp ∧ rpcResp.error = some rpcErr ∧
      rpcErr.code = jsonRpcTooManyRequests

/-- The request is limited by the status of the reply. -/
def HttpResponse.ReplyLimited (status : Status) : Prop :=
  status.code = statusTooManyRequests ∧
    ∃ rpcResp reply, resp.envelope codec = some rpcResp ∧ rpcResp.error = none ∧
      rpcResp.reply = some reply ∧ reply.status = status

/-- The three forms of a rate limit. -/
def HttpResponse.RateLimited : Prop :=
  resp.TransportLimited codec ∨ ∃ status, resp.ReplyLimited codec status

/-- The header `Retry-After` names a delay, by its seconds or by a date. -/
inductive HttpResponse.HeaderNames : Duration → Prop
  | seconds (h : Decimal (trimSpace resp.retryAfter.toList)) :
    HeaderNames (decimalValue (trimSpace resp.retryAfter.toList) * second)
  | date {retryAt : Time} (hne : trimSpace resp.retryAfter.toList ≠ [])
    (h : ¬ Decimal (trimSpace resp.retryAfter.toList))
    (hdate : codec.httpTime (String.ofList (trimSpace resp.retryAfter.toList)) = some retryAt) :
    HeaderNames (max 0 (retryAt - resp.receivedAt))

/-- The data of the JSON-RPC error names a delay. -/
def HttpResponse.DataNames (delay : Duration) : Prop :=
  ∃ rpcResp rpcErr seconds, resp.envelope codec = some rpcResp ∧ rpcResp.error = some rpcErr ∧
    rpcErr.data ≠ "" ∧ codec.retryAfterSec rpcErr.data = .ok (some seconds) ∧ 0 ≤ seconds ∧
    delay = seconds * second

/-- The delay that the server gave: HTTP and JSON-RPC name it in the header or else in the data of
the error, a reply in the detail of its status. -/
inductive HttpResponse.Gives : Duration → Prop
  | header {delay : Duration} (hlimit : resp.TransportLimited codec)
    (h : resp.HeaderNames codec delay) : Gives delay
  | data {delay : Duration} (hlimit : resp.TransportLimited codec)
    (hheader : ∀ other, ¬ resp.HeaderNames codec other) (h : resp.DataNames codec delay) :
    Gives delay
  | detail {delay : Duration} {status : Status} (hlimit : resp.ReplyLimited codec status)
    (h : specified codec.parseDuration status.detail = some delay) : Gives delay

/-- A response that the client can make out: its body can be read, its `dwn-response` header is a
JSON-RPC response, a delay fits a `time.Duration`, it stands where its form of the rate limit puts
it, and in the detail of a status nothing before it changes its length in lower case. -/
structure HttpResponse.Regular : Prop where
  body : ∃ text, resp.body = .ok text
  header : resp.dwnResponse ≠ "" →
    ∃ rpcResp, codec.jsonRpcResponse resp.dwnResponse = .ok rpcResp
  fits : ∀ delay, resp.Gives codec delay → delay ≤ maxDuration
  placed : resp.TransportLimited codec → ∀ status, resp.ReplyLimited codec status →
    specified codec.parseDuration status.detail = none
  keeps : ¬ resp.TransportLimited codec → ∀ status, resp.ReplyLimited codec status →
    ∀ front back, LastMarker status.detail front back → codec.caseMap.KeepsOffset front

namespace Exchange

def RateLimited : Exchange → Prop
  | .failed _ _ _ => False
  | .answered resp => resp.RateLimited codec

def TransportLimited : Exchange → Prop
  | .failed _ _ _ => False
  | .answered resp => resp.TransportLimited codec

def ReplyLimited : Exchange → Prop
  | .failed _ _ _ => False
  | .answered resp => ∃ status, resp.ReplyLimited codec status

def Gives : Exchange → Duration → Prop
  | .failed _ _ _, _ => False
  | .answered resp, delay => resp.Gives codec delay

def Regular : Exchange → Prop
  | .failed _ _ _ => True
  | .answered resp => resp.Regular codec

end Exchange

end Spec

/-! ### The client makes out what the server says -/

section Correct
variable {codec : Codec} {resp : HttpResponse}

theorem retryAfterSeconds_eq {seconds : Nat} (h : (seconds : Int) * second ≤ maxDuration) :
    retryAfterSeconds seconds = some (seconds * second) := by
  have hpos : (0 : Int) < second := by decide
  have hle : (seconds : Int) ≤ maxDuration / second := (Int.le_ediv_iff_mul_le hpos).mpr h
  rw [retryAfterSeconds, if_neg (not_lt.mpr hle)]

theorem parseRetryAfter_of_names {delay : Duration} (h : resp.HeaderNames codec delay)
    (hfits : delay ≤ maxDuration) :
    parseRetryAfter codec resp.retryAfter resp.receivedAt = some delay := by
  cases h with
  | seconds hdec =>
    have hmax : (maxDuration : Int) < 2 ^ 64 * second := by decide
    have hlt : decimalValue (trimSpace resp.retryAfter.toList) < 2 ^ 64 := by
      by_contra hge
      have hge' : (2 : Int) ^ 64 ≤ decimalValue (trimSpace resp.retryAfter.toList) := by
        exact_mod_cast not_lt.mp hge
      have hmul := Int.mul_le_mul_of_nonneg_right hge' (show (0 : Int) ≤ second by decide)
      exact absurd (hmul.trans hfits) (not_le.mpr hmax)
    have hparse : parseUint (trimSpace resp.retryAfter.toList) =
        some (decimalValue (trimSpace resp.retryAfter.toList)) := if_pos ⟨hdec, hlt⟩
    simp only [parseRetryAfter]
    rw [if_neg hdec.1, hparse]
    exact retryAfterSeconds_eq hfits
  | @date retryAt hne hdec hdate =>
    have hparse : parseUint (trimSpace resp.retryAfter.toList) = none :=
      if_neg fun hand => hdec hand.1
    have hsub : max 0 (timeSub retryAt resp.receivedAt) = max 0 (retryAt - resp.receivedAt) := by
      have hmin : (minDuration : Int) ≤ 0 := by decide
      have hle : retryAt - resp.receivedAt ≤ maxDuration := (le_max_right _ _).trans hfits
      rw [timeSub, min_eq_right hle, ← max_assoc, max_eq_left hmin]
    simp only [parseRetryAfter]
    rw [if_neg hne, hparse]
    simp only [hdate, Option.map_some, hsub]

/-- A header that names no delay is passed over. -/
theorem parseRetryAfter_eq_none (h : ∀ delay, ¬ resp.HeaderNames codec delay) :
    parseRetryAfter codec resp.retryAfter resp.receivedAt = none := by
  simp only [parseRetryAfter]
  split_ifs with hne
  · rfl
  · have hdec : ¬ Decimal (trimSpace resp.retryAfter.toList) := fun hdec => h _ (.seconds hdec)
    have hparse : parseUint (trimSpace resp.retryAfter.toList) = none :=
      if_neg fun hand => hdec hand.1
    have hdate : codec.httpTime (String.ofList (trimSpace resp.retryAfter.toList)) = none := by
      cases hd : codec.httpTime (String.ofList (trimSpace resp.retryAfter.toList)) with
      | none => rfl
      | some retryAt => exact absurd (.date hne hdec hd) (h _)
    rw [hparse, hdate]
    rfl

/-- The error of a response that HTTP or JSON-RPC limits carries the delay the server gave. -/
theorem newRateLimitError_retryAfter (h : resp.Regular codec) (hlimit : resp.TransportLimited codec)
    {rpcErr : Option RpcError}
    (hrpc : ∀ rpcResp, resp.envelope codec = some rpcResp → rpcResp.error = rpcErr)
    (fallbackDetail : String) {delay : Duration} (hgives : resp.Gives codec delay) :
    (newRateLimitError codec resp rpcErr fallbackDetail).retryAfter = delay := by
  have hfits : delay ≤ maxDuration := h.fits delay hgives
  cases hgives with
  | header _ hnames =>
    simp only [newRateLimitError, parseRetryAfter_of_names hnames hfits]
  | data _ hheader hnames =>
    obtain ⟨rpcResp, e, seconds, henv, herr, hdata, hsec, hnonneg, rfl⟩ := hnames
    have hrpcErr : rpcErr = some e := (hrpc rpcResp henv).symm.trans herr
    have hcast : (seconds.toNat : Int) = seconds := Int.toNat_of_nonneg hnonneg
    have hread : retryAfterFromRPCData codec e.data = some (seconds * second) := by
      rw [retryAfterFromRPCData, if_neg hdata, hsec]
      simp only [if_neg (not_lt.mpr hnonneg)]
      rw [retryAfterSeconds_eq (hcast.symm ▸ hfits), hcast]
    simp only [newRateLimitError, parseRetryAfter_eq_none hheader, hrpcErr, Option.bind_some, hread,
      Option.getD_some]
  | detail hreply hdetail =>
    rw [h.placed hlimit _ hreply] at hdetail
    cases hdetail

theorem envelope_eq_some {rpcResp : RpcResponse} : resp.envelope codec = some rpcResp ↔
    (resp.dwnResponse ≠ "" ∧ codec.jsonRpcResponse resp.dwnResponse = .ok rpcResp) ∨
      (resp.dwnResponse = "" ∧
        ∃ text, resp.body = .ok text ∧ codec.jsonRpcResponse text = .ok rpcResp) := by
  rw [HttpResponse.envelope]
  by_cases hheader : resp.dwnResponse = ""
  · simp [hheader, Option.bind_eq_some_iff, toOption_eq_some]
  · simp [hheader, toOption_eq_some]

/-! What `parseResponse` makes of a response, by its HTTP status and its envelope. -/

theorem parseResponse_http (h : resp.Regular codec)
    (hcode : resp.statusCode = statusTooManyRequests) :
    ∃ detail, parseResponse codec resp = .error (.rateLimit
      (newRateLimitError codec resp ((resp.envelope codec).bind (·.error)) detail)) := by
  obtain ⟨text, hbody⟩ := h.body
  by_cases hheader : resp.dwnResponse = ""
  · have henv : resp.envelope codec = (codec.jsonRpcResponse text).toOption := by
      simp [HttpResponse.envelope, hheader, hbody, Except.toOption]
    simp only [parseResponse, hheader, hbody, hcode, henv, ne_eq, not_true, if_false, if_true]
    exact ⟨_, rfl⟩
  · obtain ⟨rpcResp, hparsed⟩ := h.header hheader
    have henv : resp.envelope codec = some rpcResp := envelope_eq_some.mpr (.inl ⟨hheader, hparsed⟩)
    cases herr : rpcResp.error with
    | some rpcErr => exact ⟨"", by simp [parseResponse, hheader, hparsed, henv, herr, hcode]⟩
    | none => exact ⟨"HTTP 429", by simp [parseResponse, hheader, hparsed, henv, herr, hcode]⟩

section Envelope
variable (hcode : resp.statusCode ≠ statusTooManyRequests)
include hcode

theorem parseResponse_noEnvelope (henv : resp.envelope codec = none) :
    ∃ message, parseResponse codec resp = .error (.transport message) := by
  by_cases hheader : resp.dwnResponse = ""
  · cases hbody : resp.body with
    | error e => simp [parseResponse, hheader, hbody]
    | ok text =>
      cases hparsed : codec.jsonRpcResponse text with
      | error e => simp [parseResponse, hheader, hbody, hcode, hparsed]
      | ok rpcResp => simp [HttpResponse.envelope, hheader, hbody, hparsed, Except.toOption] at henv
  · cases hparsed : codec.jsonRpcResponse resp.dwnResponse with
    | error e => simp [parseResponse, hheader, hparsed]
    | ok rpcResp => simp [HttpResponse.envelope, hheader, hparsed, Except.toOption] at henv

variable {rpcResp : RpcResponse} (henv : resp.envelope codec = some rpcResp)
include henv

theorem parseResponse_rpc {rpcErr : RpcError} (herr : rpcResp.error = some rpcErr) :
    parseResponse codec resp =
      if rpcErr.code = jsonRpcTooManyRequests then
        .error (.rateLimit (newRateLimitError codec resp (some rpcErr) ""))
      else .error (.rpc rpcErr) := by
  obtain ⟨hheader, hparsed⟩ | ⟨hheader, text, hbody, hparsed⟩ := envelope_eq_some.mp henv
  · simp [parseResponse, hheader, hparsed, herr, hcode]
  · simp [parseResponse, hheader, hbody, hcode, hparsed, herr]

/-- Of the body of a response with a header, only the data is lost. -/
theorem parseResponse_ok (herr : rpcResp.error = none) :
    parseResponse codec resp = .ok rpcResp.reply ∨
      ∃ e, resp.body = .error e ∧
        parseResponse codec resp = .error (.transport ("reading response data: " ++ e)) := by
  obtain ⟨hheader, hparsed⟩ | ⟨hheader, text, hbody, hparsed⟩ := envelope_eq_some.mp henv
  · cases hbody : resp.body with
    | error e => simp [parseResponse, hheader, hparsed, herr, hcode, hbody]
    | ok text => simp [parseResponse, hheader, hparsed, herr, hcode, hbody]
  · simp [parseResponse, hheader, hbody, hcode, hparsed, herr]

end Envelope

theorem parseResponse_limited (h : resp.Regular codec) (hlimit : resp.TransportLimited codec) :
    ∃ e, parseResponse codec resp = .error (.rateLimit e) ∧
      ∀ delay, resp.Gives codec delay → e.retryAfter = delay := by
  by_cases hcode : resp.statusCode = statusTooManyRequests
  · obtain ⟨detail, hparse⟩ := parseResponse_http h hcode
    refine ⟨_, hparse, fun delay hgives => ?_⟩
    refine newRateLimitError_retryAfter h hlimit (fun rpcResp henv => ?_) _ hgives
    rw [henv, Option.bind_some]
  · obtain ⟨rpcResp, rpcErr, henv, herr, hrpc⟩ := hlimit.resolve_left hcode
    have hparse := parseResponse_rpc hcode henv herr
    rw [if_pos hrpc] at hparse
    refine ⟨_, hparse, fun delay hgives => ?_⟩
    refine newRateLimitError_retryAfter h hlimit (fun r hr => ?_) _ hgives
    rw [← herr, Option.some.inj (henv.symm.trans hr)]

/-- A reply comes through where nothing but its status limits the request. -/
theorem parseResponse_reply (h : resp.Regular codec) (hlimit : ¬ resp.TransportLimited codec)
    {status : Status} (hreply : resp.ReplyLimited codec status) :
    ∃ reply, parseResponse codec resp = .ok (some reply) ∧ reply.status = status := by
  obtain ⟨-, rpcResp, reply, henv, herr, hrep, hstatus⟩ := hreply
  obtain ⟨text, hbody⟩ := h.body
  refine ⟨reply, ?_, hstatus⟩
  rcases parseResponse_ok (fun hcode => hlimit (.inl hcode)) henv herr with hok | ⟨e, he, -⟩
  · rw [hok, hrep]
  · rw [hbody] at he
    cases he

theorem replyLimited_unique {status status' : Status} (h : resp.ReplyLimited codec status)
    (h' : resp.ReplyLimited codec status') : status = status' := by
  obtain ⟨-, rpcResp, reply, henv, -, hreply, rfl⟩ := h
  obtain ⟨-, rpcResp', reply', henv', -, hreply', rfl⟩ := h'
  obtain rfl : rpcResp = rpcResp' := Option.some.inj (henv.symm.trans henv')
  rw [Option.some.inj (hreply.symm.trans hreply')]

theorem recordsQueryWithAuth_limited {x : Exchange} (h : x.Regular codec)
    (hlimit : x.RateLimited codec) :
    ∃ e, recordsQueryWithAuth codec x = some (.error (.rateLimit e)) ∧
      ∀ delay, x.Gives codec delay → e.retryAfter = delay := by
  cases x with
  | failed message canceled deadlineExceeded => exact hlimit.elim
  | answered resp =>
    by_cases htransport : resp.TransportLimited codec
    · obtain ⟨e, hparse, he⟩ := parseResponse_limited h htransport
      exact ⟨e, by simp [recordsQueryWithAuth, send, hparse], he⟩
    · obtain ⟨status, hstatus⟩ := hlimit.resolve_left htransport
      obtain ⟨reply, hparse, rfl⟩ := parseResponse_reply h htransport hstatus
      have hread : retryAfterFromStatusDetail codec.caseMap codec.parseDuration reply.status.detail =
          some (specified codec.parseDuration reply.status.detail) :=
        retryAfter_of_keeps (h.keeps htransport _ hstatus)
      have hquery : recordsQueryWithAuth codec (.answered resp) =
          (queryRateLimitError codec reply.status).map fun e => .error (.rateLimit e) := by
        simp only [recordsQueryWithAuth, send, hparse, if_pos hstatus.1]
      rw [hquery, queryRateLimitError, hread]
      refine ⟨_, rfl, fun delay hgives => ?_⟩
      cases hgives with
      | header hl _ => exact absurd hl htransport
      | data hl _ _ => exact absurd hl htransport
      | detail hl hdetail =>
        rw [replyLimited_unique hl hstatus] at hdetail
        simp [hdetail]

/-- A read makes out the limits that are not in the status of the reply. -/
theorem send_limited {x : Exchange} (h : x.Regular codec) (hlimit : x.RateLimited codec)
    (hreply : x.ReplyLimited codec → x.TransportLimited codec) :
    ∃ e, send codec x = .error (.rateLimit e) ∧
      ∀ delay, x.Gives codec delay → e.retryAfter = delay := by
  cases x with
  | failed message canceled deadlineExceeded => exact hlimit.elim
  | answered resp => exact parseResponse_limited h (hlimit.elim id hreply)

/-- The client reports no rate limit of its own making, and does not panic without one. -/
theorem recordsQueryWithAuth_unlimited {x : Exchange} (h : ¬ x.RateLimited codec) :
    ∃ result, recordsQueryWithAuth codec x = some result ∧ ∀ e, result ≠ .error (.rateLimit e) := by
  cases x with
  | failed message canceled deadlineExceeded => exact ⟨_, rfl, by simp [send]⟩
  | answered resp =>
    have hcode : resp.statusCode ≠ statusTooManyRequests := fun hcode => h (.inl (.inl hcode))
    simp only [recordsQueryWithAuth, send]
    cases henv : resp.envelope codec with
    | none =>
      obtain ⟨message, hparse⟩ := parseResponse_noEnvelope hcode henv
      rw [hparse]
      exact ⟨_, rfl, by simp⟩
    | some rpcResp =>
      cases herr : rpcResp.error with
      | some rpcErr =>
        have hrpc : rpcErr.code ≠ jsonRpcTooManyRequests :=
          fun hrpc => h (.inl (.inr ⟨rpcResp, rpcErr, henv, herr, hrpc⟩))
        rw [parseResponse_rpc hcode henv herr, if_neg hrpc]
        exact ⟨_, rfl, by simp⟩
      | none =>
        rcases parseResponse_ok hcode henv herr with hok | ⟨e, -, hfail⟩
        · cases hreply : rpcResp.reply with
          | none =>
            rw [hok, hreply]
            exact ⟨_, rfl, by simp⟩
          | some reply =>
            have hstatus : reply.status.code ≠ statusTooManyRequests := fun hstatus =>
              h (.inr ⟨reply.status, hstatus, rpcResp, reply, henv, herr, hreply, rfl⟩)
            simp only [hok, hreply, if_neg hstatus]
            exact ⟨_, rfl, by simp⟩
        · rw [hfail]
          exact ⟨_, rfl, by simp⟩

theorem limited_of_recordsQueryWithAuth {x : Exchange} {e : RateLimitError}
    (h : recordsQueryWithAuth codec x = some (.error (.rateLimit e))) : x.RateLimited codec := by
  by_contra hlimit
  obtain ⟨result, hresult, hne⟩ := recordsQueryWithAuth_unlimited hlimit
  exact hne e (Option.some.inj (hresult.symm.trans h))

theorem recordsQueryWithAuth_isSome {x : Exchange} (h : x.Regular codec) :
    (recordsQueryWithAuth codec x).isSome = true := by
  by_cases hlimit : x.RateLimited codec
  · obtain ⟨e, hquery, -⟩ := recordsQueryWithAuth_limited h hlimit
    rw [hquery]
    rfl
  · obtain ⟨result, hquery, -⟩ := recordsQueryWithAuth_unlimited hlimit
    rw [hquery]
    rfl

end Correct

end Meshd.Dwn

import Meshd.Framework.Go
import Meshd.Dwn.ProgressToken

namespace Meshd.Dwn

open Meshd.Framework

structure ProgressGapInfo where
  code : String := ""
  requested : ProgressToken := {}
  oldestAvailable : ProgressToken := {}
  latestAvailable : ProgressToken := {}
  reason : String := ""
deriving DecidableEq

/-- An error: what `errors.As` finds in it, and its text. A terminal error has a text of its own. -/
structure Failure where
  terminal : Option String := none
  gap : Option ProgressGapInfo := none
  message : String
deriving DecidableEq

def Failure.wrap (context : String) (e : Failure) : Failure :=
  { e with message := context ++ ": " ++ e.message }

def terminalSubscriptionError (message : String) : Failure := { terminal := some message, message }

def progressGapError (info : ProgressGapInfo) : Failure :=
  { gap := some info, message := "subscription progress gap: " ++ info.reason }

inductive MessageType
  | event
  | eose
  | error
  | unknown (name : String)
deriving DecidableEq

def MessageType.name : MessageType → String
  | .event => "event"
  | .eose => "eose"
  | .error => "error"
  | .unknown name => name

structure SubscriptionError where
  code : String
  detail : String
deriving DecidableEq

structure SubscriptionMessage where
  messageType : MessageType
  cursor : Option ProgressToken
  /-- The text of `event.message`. -/
  event : Option String := none
  error : Option SubscriptionError := none
deriving DecidableEq

structure JsonRpcError where
  code : Int
  message : String
deriving DecidableEq

def JsonRpcError.text (e : JsonRpcError) : String :=
  "JSON-RPC error " ++ toString e.code ++ ": " ++ e.message

/-- The event envelope, with `result.subscription`. -/
structure SubscriptionEventResponse where
  id : String
  error : Option JsonRpcError := none
  subscription : Option SubscriptionMessage := none
deriving DecidableEq

/-- The reply to a subscribe request. The gap is what its error details leave. -/
structure SubscribeReply where
  code : Int
  detail : String := ""
  gap : ProgressGapInfo := {}
  subscription : Bool := true
deriving DecidableEq

/-- The response envelope, with `result.reply`. -/
structure JsonRpcResponse where
  id : String
  error : Option JsonRpcError := none
  reply : Option SubscribeReply := none
deriving DecidableEq

/-- A frame from the server, as each of the two envelopes reads it. -/
structure Frame where
  response : Except String JsonRpcResponse
  event : Except String SubscriptionEventResponse

inductive SubscriptionLifecycleEvent
  | established (needsFullRefresh : Bool)
  | retrying (attempt : Nat) (retryIn : Duration) (err : String)
  | progressGap (gap : ProgressGapInfo) (err : String)
  | terminal (err : String)
deriving DecidableEq

/-- What a subscription does that others see, with the resets of its cursor and the errors its
connections end with. -/
inductive Output
  | request (cursor : Option ProgressToken)
  | handled (message : SubscriptionMessage) (ok : Bool)
  | ack (token : ProgressToken)
  | disconnected (err : Failure)
  | reset
  | lifecycle (event : SubscriptionLifecycleEvent)
deriving DecidableEq

/-- Where the goroutine of a subscription is. -/
inductive Phase
  | connecting
  | handshake (requestID : String) (resumeCursor : Option ProgressToken)
  | established
  | backingOff
  | stopped
deriving DecidableEq

/-- A subscription, with a log of its outputs. The newest stands first. -/
structure Subscription where
  subscriptionID : String
  cursor : Option ProgressToken := none
  phase : Phase := .connecting
  ctxDone : Bool := false
  attempt : Nat := 0
  backoff : Duration := second
  log : List Output := []

/-- How an attempt to dial and to send the subscribe request ends. A request whose write fails may
have gone out. -/
inductive Dial
  | failed (err : String)
  | unbuilt (err : String)
  | unwritten (err : String)
  | sent (requestID : String)

/-- What happens to a subscription. A frame comes with the outcome of the handler, should it be
called, where a panic is an error too, and with the outcome of the write of the ack. -/
inductive Event
  | connect (dial : Dial)
  | frame (frame : Frame) (handler : Option Failure) (ack : Option String)
  | readFailed (err : String)
  | wake (timer : Bool)
  | cancel

def permanentJSONRPCSubscriptionError (code : Int) : Bool :=
  code == -32700 || code == -32600 || code == -32601 || code == -32602

def permanentSubscriptionStatus (code : Int) : Bool :=
  decide (400 ≤ code) && decide (code < 500) && code != 408 && code != 410 && code != 429

/-- The token of a message that can be used. -/
def validateSubscriptionMessage (message : SubscriptionMessage) : Except Failure ProgressToken :=
  match message.cursor.filter (·.valid) with
  | none =>
    .error { message :=
      "subscription " ++ message.messageType.name.quote ++ " has an invalid progress token" }
  | some cursor =>
    match message.messageType with
    | .event =>
      if message.event.getD "" = "" then
        .error { message := "subscription event is missing event.message" }
      else .ok cursor
    | .eose => .ok cursor
    | .error =>
      if message.error = none then
        .error { message := "subscription error is missing error details" }
      else .ok cursor
    | .unknown name => .error { message := "unknown subscription message type " ++ name.quote }

def subscriptionCursorGap (current candidate : ProgressToken) (reason : String) : Failure :=
  progressGapError
    { code := "ProgressGap", requested := current, latestAvailable := candidate, reason }

/-- The error that a message of the `error` type ends the subscription with. -/
def terminalError (message : SubscriptionMessage) : Option String :=
  match message.messageType, message.error with
  | .error, some e => some ("terminal subscription error: " ++ e.code ++ ": " ++ e.detail)
  | _, _ => none

namespace Subscription

def emit (o : Output) (s : Subscription) : Subscription := { s with log := o :: s.log }

def emitLifecycle (event : SubscriptionLifecycleEvent) (s : Subscription) : Subscription :=
  s.emit (.lifecycle event)

def clearCursor (s : Subscription) : Subscription := { s with cursor := none }.emit .reset

def rememberCursor (cursor : ProgressToken) (s : Subscription) : Subscription :=
  if shouldReplaceProgressToken s.cursor cursor then { s with cursor := some cursor } else s

def validateCursorProgression (messageType : MessageType) (candidate : ProgressToken)
    (s : Subscription) : Option Failure :=
  match s.cursor with
  | none => none
  | some current =>
    if candidate.streamID ≠ current.streamID then
      some (subscriptionCursorGap current candidate "stream_mismatch")
    else if candidate.epoch ≠ current.epoch then
      some (subscriptionCursorGap current candidate "epoch_mismatch")
    else
      let comparison := compareDecimalPositions candidate.position current.position
      if comparison = .lt ∨ comparison = .eq ∧ messageType ≠ .eose then
        some (subscriptionCursorGap current candidate "token_too_old")
      else none

/-- A token that is not valid is not written. -/
def sendAck (cursor : ProgressToken) (write : Option String) (s : Subscription) :
    Option String × Subscription :=
  if cursor.valid then (write, s.emit (.ack cursor)) else (some "invalid progress token", s)

/-- The handler, and after its success the cursor and the ack. -/
def deliver (message : SubscriptionMessage) (cursor : ProgressToken) (handler : Option Failure)
    (ack : Option String) (s : Subscription) : Option Failure × Subscription :=
  match handler with
  | some e =>
    (some (e.wrap ("handling subscription " ++ message.messageType.name)),
      s.emit (.handled message false))
  | none =>
    let (ackErr, s) := ((s.emit (.handled message true)).rememberCursor cursor).sendAck cursor ack
    match ackErr.map ("acknowledging subscription " ++ message.messageType.name ++ ": " ++ ·),
      terminalError message with
    | none, none => (none, s)
    | none, some terminal => (some (terminalSubscriptionError terminal), s)
    | some ackErr, none => (some { message := ackErr }, s)
    | some ackErr, some terminal =>
      (some (terminalSubscriptionError (terminal ++ "; " ++ ackErr)), s)

/-- A frame of the subscription: the error that ends the connection, if any. -/
def handleSubscriptionFrame (frame : Frame) (handler : Option Failure) (ack : Option String)
    (s : Subscription) : Option Failure × Subscription :=
  match frame.event with
  | .error e => (some { message := "parsing subscription event: " ++ e }, s)
  | .ok response =>
    if response.id ≠ s.subscriptionID then (none, s)
    else
      match response.error, response.subscription with
      | some e, _ => (some { message := "subscription JSON-RPC error: " ++ e.text }, s)
      | none, none => (some { message := "subscription frame missing result.subscription" }, s)
      | none, some message =>
        match validateSubscriptionMessage message with
        | .error e => (some e, s)
        | .ok cursor =>
          match s.validateCursorProgression message.messageType cursor with
          | some e => (some e, s)
          | none => s.deliver message cursor handler ack

/-- What becomes of a handshake after a frame. -/
inductive Handshake
  | goesOn
  | confirmed
  | failed (err : Failure)

def rejected (e : JsonRpcError) : Failure :=
  let message := "subscription rejected: " ++ e.text
  if permanentJSONRPCSubscriptionError e.code then terminalSubscriptionError message
  else { message }

def refused (reply : SubscribeReply) : Failure :=
  let message := "subscription failed: " ++ toString reply.code ++ " " ++ reply.detail
  if permanentSubscriptionStatus reply.code then terminalSubscriptionError message
  else { message }

/-- One turn of the loop that waits for the confirmation. The server may replay events before it. -/
def readSubscribeResponse (requestID : String) (resumeCursor : Option ProgressToken) (frame : Frame)
    (handler : Option Failure) (ack : Option String) (s : Subscription) :
    Handshake × Subscription :=
  match frame.response with
  | .error e => (.failed { message := "parsing response: " ++ e }, s)
  | .ok response =>
    if response.id = s.subscriptionID then
      match s.handleSubscriptionFrame frame handler ack with
      | (some err, s) => (.failed err, s)
      | (none, s) => (.goesOn, s)
    else if response.id ≠ requestID then (.goesOn, s)
    else
      match response.error, response.reply with
      | some e, _ => (.failed (rejected e), s)
      | none, none =>
        (.failed (terminalSubscriptionError "unexpected response: missing result.reply"), s)
      | none, some reply =>
        if reply.code = 410 then (.failed (progressGapError reply.gap), s)
        else if reply.code ≠ 200 then (.failed (refused reply), s)
        else if reply.subscription = false then
          (.failed (terminalSubscriptionError "unexpected response: missing reply.subscription"), s)
        else (.confirmed, s.emitLifecycle (.established resumeCursor.isNone))

def maxBackoff : Duration := 30 * second

/-- The rest of a turn of the loop of `run`, after `connect` has come back with an error. -/
def disconnect (established : Bool) (err : Failure) (s : Subscription) : Subscription :=
  let s := s.emit (.disconnected err)
  if s.ctxDone then { s with phase := .stopped }
  else
    let s := if established then { s with attempt := 0, backoff := second } else s
    match err.terminal with
    | some terminal => { s.emitLifecycle (.terminal terminal) with phase := .stopped }
    | none =>
      let s :=
        match err.gap with
        | some gap =>
          { s.clearCursor.emitLifecycle (.progressGap gap err.message) with backoff := second }
        | none => s
      let s := { s with attempt := s.attempt + 1 }
      { s.emitLifecycle (.retrying s.attempt s.backoff err.message) with phase := .backingOff }

/-- The cursor of a subscribe request, which has to be valid. -/
def requestCursor (s : Subscription) : Option ProgressToken := s.cursor.filter (·.valid)

def connect (dial : Dial) (s : Subscription) : Subscription :=
  match dial with
  | .failed err => s.disconnect false { message := "dialing websocket: " ++ err }
  | .unbuilt err => s.disconnect false { message := "sending subscribe request: " ++ err }
  | .unwritten err =>
    (s.emit (.request s.requestCursor)).disconnect false
      { message := "sending subscribe request: writing subscribe request: " ++ err }
  | .sent requestID =>
    { s.emit (.request s.requestCursor) with phase := .handshake requestID s.cursor }

def readFrame (frame : Frame) (handler : Option Failure) (ack : Option String) (s : Subscription) :
    Subscription :=
  match s.phase with
  | .handshake requestID resumeCursor =>
    match s.readSubscribeResponse requestID resumeCursor frame handler ack with
    | (.goesOn, s) => s
    | (.confirmed, s) => { s with phase := .established }
    | (.failed err, s) => s.disconnect false (err.wrap "reading subscribe response")
  | .established =>
    match s.handleSubscriptionFrame frame handler ack with
    | (none, s) => s
    | (some err, s) => s.disconnect true err
  | _ => s

def readFailed (err : String) (s : Subscription) : Subscription :=
  match s.phase with
  | .handshake _ _ =>
    s.disconnect false { message := "reading subscribe response: reading response: " ++ err }
  | .established => s.disconnect true { message := "reading event: " ++ err }
  | _ => s

/-- The wait between two connections ends by its timer or, where both are due, by the context. -/
def wake (timer : Bool) (s : Subscription) : Subscription :=
  match s.phase with
  | .backingOff =>
    if timer then { s with backoff := min (s.backoff * 2) maxBackoff, phase := .connecting }
    else if s.ctxDone then { s with phase := .stopped }
    else s
  | _ => s

def step (s : Subscription) : Event → Subscription
  | .connect dial => if s.phase = .connecting then s.connect dial else s
  | .frame frame handler ack => s.readFrame frame handler ack
  | .readFailed err => s.readFailed err
  | .wake timer => s.wake timer
  | .cancel => { s with ctxDone := true }

end Subscription

end Meshd.Dwn

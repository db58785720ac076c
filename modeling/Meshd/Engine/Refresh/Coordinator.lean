import Meshd.Framework.Run
import Meshd.Framework.Go

namespace Meshd.Engine

open Meshd.Framework

/-- A source of control-plane invalidation. The type is open: any string may be notified. -/
abbrev RefreshReason := String

def refreshReasonStartup : RefreshReason := "startup"
def refreshReasonPeriodic : RefreshReason := "periodic"
def refreshReasonTopology : RefreshReason := "topology"
def refreshReasonDelivery : RefreshReason := "delivery"
def refreshReasonEndpoint : RefreshReason := "endpoint"
def refreshReasonManual : RefreshReason := "manual"

/-- An authoritative subscription stream. -/
abbrev RefreshStream := String

def refreshStreamTopology : RefreshStream := "topology"
def refreshStreamDelivery : RefreshStream := "delivery"

def reasonForStream (stream : RefreshStream) : RefreshReason :=
  if stream = refreshStreamTopology then refreshReasonTopology
  else if stream = refreshStreamDelivery then refreshReasonDelivery
  else stream

structure RefreshBatch where
  reasons : List RefreshReason
  sequence : Nat
  attempt : Nat
  startedAt : Time

/-- What `refresh` returned: the message, and the delay of a wrapped `RateLimitError`. -/
structure RefreshError where
  message : String
  retryAfter : Option Duration

structure RefreshCoordinatorConfig where
  /-- `Refresh != nil` -/
  hasRefresh : Bool := true
  fallbackInterval : Duration := 0
  healthyInterval : Duration := 0
  debounce : Duration := 0
  maxDebounce : Duration := 0
  retryBackoff : Duration := 0
  maxRetryBackoff : Duration := 0

structure RefreshStreamState where
  covered : Bool := false
  live : Bool := false
  repaired : Bool := false
  repairSequence : Nat := 0
deriving DecidableEq

/-- The 64-bit sequence counter is a natural number here: one value per call never wraps. An
absent key of `streams` reads as the zero state, as a Go map read does. -/
structure RefreshCoordinator where
  fallbackInterval : Duration
  healthyInterval : Duration
  retryBackoff : Duration
  maxRetryBackoff : Duration
  debounce : Duration
  maxDebounce : Duration
  pending : GoMap Nat := ∅
  streams : RefreshStream → RefreshStreamState := fun _ => {}
  sequence : Nat := 0
  started : Bool := false
  stopped : Bool := false
  running : Bool := false
  paused : Bool := false
  inFlight : Bool := false
  consecutiveFailures : Nat := 0
  lastAttemptAt : Time := 0
  lastSuccessAt : Time := 0
  lastReasons : List RefreshReason := []
  lastDuration : Duration := 0
  lastError : String := ""
  retryNotBefore : Time := 0
  debounceStartedAt : Time := 0
  debounceNotBefore : Time := 0
  nextPeriodicAt : Time := 0

structure RefreshWork where
  batch : RefreshBatch
  pending : GoMap Nat
  reasons : List RefreshReason

/-- What one call reads from outside: the clock (`InvalidateStream` reads it twice) and the two
jitter functions, which may answer differently on every call. -/
structure CallEnv where
  now : Time
  resetNow : Time := now
  jitter : Duration → Duration := id
  retryJitter : Duration → Duration := id

def newRefreshCoordinator (cfg : RefreshCoordinatorConfig) : Except String RefreshCoordinator :=
  if !cfg.hasRefresh then .error "refresh coordinator requires a refresh function" else
  let fallbackInterval := if cfg.fallbackInterval = 0 then 30 * second else cfg.fallbackInterval
  let healthyInterval := if cfg.healthyInterval = 0 then 5 * minute else cfg.healthyInterval
  let retryBackoff := if cfg.retryBackoff = 0 then second else cfg.retryBackoff
  let maxRetryBackoff := if cfg.maxRetryBackoff = 0 then 30 * second else cfg.maxRetryBackoff
  let maxDebounce := if cfg.debounce > 0 ∧ cfg.maxDebounce = 0 then cfg.debounce
    else cfg.maxDebounce
  if fallbackInterval < 0 ∨ healthyInterval < 0 ∨ retryBackoff < 0 ∨ maxRetryBackoff < 0 ∨
      cfg.debounce < 0 ∨ maxDebounce < 0 then
    .error "refresh coordinator durations must be positive"
  else if maxRetryBackoff < retryBackoff then
    .error "refresh coordinator max retry backoff must be at least retry backoff"
  else if cfg.debounce > 0 ∧ maxDebounce < cfg.debounce then
    .error "refresh coordinator max debounce must be at least debounce"
  else
    .ok { fallbackInterval, healthyInterval, retryBackoff, maxRetryBackoff,
          debounce := cfg.debounce, maxDebounce }

/-- The coordinator of a configuration that leaves every duration at its default. -/
def defaultCoordinator : RefreshCoordinator :=
  { fallbackInterval := 30 * second, healthyInterval := 5 * minute, retryBackoff := second,
    maxRetryBackoff := 30 * second, debounce := 0, maxDebounce := 0 }

theorem newRefreshCoordinator_default : newRefreshCoordinator {} = .ok defaultCoordinator := rfl

def sortedPendingReasons (pending : GoMap Nat) : List RefreshReason :=
  pending.keys.mergeSort (fun a b => a ≤ b)

/-- The largest sequence of the entries, `0` when there is none. -/
def maxSequence (entries : List (Σ _ : String, Nat)) : Nat :=
  entries.foldl (fun sequence item => if item.2 > sequence then item.2 else sequence) 0

/-- The loop of `exponentialBackoff`, with the number of doublings left. -/
def backoffLoop (maximum : Duration) : Nat → Duration → Duration
  | 0, delay => if delay > maximum then maximum else delay
  | n + 1, delay =>
    if delay ≥ maximum ∨ delay > maximum.tdiv 2 then maximum else backoffLoop maximum n (delay * 2)

def exponentialBackoff (base maximum : Duration) (failures : Nat) : Duration :=
  if failures ≤ 1 then base else backoffLoop maximum (failures - 1) base

/-- The empty reason is filed as a manual one. -/
def pendingKey (reason : RefreshReason) : RefreshReason :=
  if reason = "" then refreshReasonManual else reason

/-- The map write of `enqueueAtLocked`: an entry is only ever raised. -/
def enqueuePending (pending : GoMap Nat) (reason : RefreshReason) (sequence : Nat) : GoMap Nat :=
  match pending.lookup reason with
  | some current => if sequence > current then pending.insert reason sequence else pending
  | none => pending.insert reason sequence

namespace RefreshCoordinator

variable (c : RefreshCoordinator)

def streamsHealthyLocked : Bool :=
  [refreshStreamTopology, refreshStreamDelivery].all fun source =>
    (c.streams source).covered && (c.streams source).live && (c.streams source).repaired

def currentIntervalLocked : Duration :=
  if c.streamsHealthyLocked then c.healthyInterval else c.fallbackInterval

def resetPeriodicLocked (now : Time) (jitter : Duration → Duration) : RefreshCoordinator :=
  let interval := jitter c.currentIntervalLocked
  { c with nextPeriodicAt := now + (if interval < 0 then 0 else interval) }

def enqueueAtLocked (reason : RefreshReason) (sequence : Nat) : RefreshCoordinator :=
  { c with pending := enqueuePending c.pending (pendingKey reason) sequence }

def enqueueLocked (reason : RefreshReason) : RefreshCoordinator :=
  let c := { c with sequence := c.sequence + 1 }
  c.enqueueAtLocked reason c.sequence

def deferPendingLocked (now : Time) : RefreshCoordinator :=
  if c.debounce ≤ 0 ∨ GoMap.isEmpty c.pending then c else
  let debounceStartedAt := if c.debounceStartedAt = 0 then now else c.debounceStartedAt
  let deadline := now + c.debounce
  let deadline := if c.maxDebounce > 0 ∧ deadline > debounceStartedAt + c.maxDebounce
    then debounceStartedAt + c.maxDebounce else deadline
  let deadline := if deadline < now then now else deadline
  { c with debounceStartedAt, debounceNotBefore := deadline }

/-- `c.streams[stream] = f(c.streams[stream])`. -/
def modifyStream (stream : RefreshStream) (f : RefreshStreamState → RefreshStreamState) :
    RefreshCoordinator :=
  { c with streams := Function.update c.streams stream (f (c.streams stream)) }

/-- The three lines the stream calls share: a new sequence, and the stream stale as of it. -/
def markStale (stream : RefreshStream) : RefreshCoordinator :=
  let c := { c with sequence := c.sequence + 1 }
  c.modifyStream stream fun state =>
    { state with repaired := false, repairSequence := c.sequence }

/-- `delete(c.pending, reasonForStream(stream))`, and no debounce window without work. -/
def dropPending (stream : RefreshStream) : RefreshCoordinator :=
  let c := { c with pending := c.pending.erase (reasonForStream stream) }
  if GoMap.isEmpty c.pending then { c with debounceStartedAt := 0, debounceNotBefore := 0 } else c

def start (hasContext : Bool) (env : CallEnv) : Except String RefreshCoordinator :=
  if !hasContext then .error "refresh coordinator requires a context"
  else if c.started then .error "refresh coordinator already started"
  else if c.stopped then .error "refresh coordinator cannot be restarted"
  else
    let c := { c with started := true, running := true }
    .ok ((c.enqueueLocked refreshReasonStartup).resetPeriodicLocked env.now env.jitter)

def stop : RefreshCoordinator := { c with stopped := true }

def notify (reason : RefreshReason) (env : CallEnv) : RefreshCoordinator :=
  if c.stopped then c else (c.enqueueLocked (pendingKey reason)).deferPendingLocked env.now

def setPaused (paused : Bool) (env : CallEnv) : RefreshCoordinator :=
  if c.stopped then c else
  let wasPaused := c.paused
  let c := { c with paused := paused }
  if wasPaused && !paused then
    (c.enqueueLocked refreshReasonManual).deferPendingLocked env.now
  else c

def setStreamCovered (stream : RefreshStream) (covered : Bool) (env : CallEnv) :
    RefreshCoordinator :=
  if c.stopped then c
  else if (c.streams stream).covered = covered then c
  else
    let c := if !covered then
        (c.modifyStream stream fun state =>
          { state with covered := false, live := false, repaired := false,
                       repairSequence := 0 }).dropPending stream
      else
        let c := (c.modifyStream stream fun state => { state with covered := true }).markStale stream
        if (c.streams stream).live then
          c.enqueueAtLocked (reasonForStream stream) (c.streams stream).repairSequence
        else c
    c.resetPeriodicLocked env.now env.jitter

/-- Crossing the replay barrier receives a new revision even if the underlying invalidation
predates an in-flight refresh. Only an unrepaired stream gets here, so `markStale` does no more
than the two lines of the source. -/
def queueRepair (stream : RefreshStream) (wasLive : Bool) : RefreshCoordinator :=
  let c := if !wasLive || (c.streams stream).repairSequence == 0 then c.markStale stream else c
  c.enqueueAtLocked (reasonForStream stream) (c.streams stream).repairSequence

/-- The first half of `SetStreamLive`: the flag, and a stale stream when a full refresh is needed,
whose queued rebuild is dropped until a fresh stream is live. -/
def reportLive (stream : RefreshStream) (live needsFullRefresh : Bool) : RefreshCoordinator :=
  let c := c.modifyStream stream fun state => { state with live := live }
  if needsFullRefresh then
    if !live then (c.markStale stream).dropPending stream else c.markStale stream
  else c

def setStreamLive (stream : RefreshStream) (live needsFullRefresh : Bool) (env : CallEnv) :
    RefreshCoordinator :=
  if c.stopped then c else
  let wasLive := (c.streams stream).live
  let changed := wasLive != live || needsFullRefresh
  let c := c.reportLive stream live needsFullRefresh
  let c := if live && (c.streams stream).covered && !(c.streams stream).repaired then
      c.queueRepair stream wasLive
    else c
  if changed then c.resetPeriodicLocked env.now env.jitter else c

def invalidateStream (stream : RefreshStream) (reason : RefreshReason) (env : CallEnv) :
    RefreshCoordinator :=
  let reason := if reason = "" then reasonForStream stream else reason
  if c.stopped then c else
  let c := c.markStale stream
  let c := if (c.streams stream).covered && (c.streams stream).live then
      (c.enqueueAtLocked reason (c.streams stream).repairSequence).deferPendingLocked env.now
    else c
  c.resetPeriodicLocked env.resetNow env.jitter

def takeWorkLocked (now : Time) : Option (RefreshWork × RefreshCoordinator) :=
  if c.paused || c.inFlight || GoMap.isEmpty c.pending || decide (c.retryNotBefore > now) ||
      decide (c.debounceNotBefore > now) then none
  else
    let reasons := sortedPendingReasons c.pending
    some (
      { batch := { reasons, sequence := maxSequence c.pending.entries,
                   attempt := c.consecutiveFailures + 1, startedAt := now },
        pending := c.pending, reasons },
      { c with pending := ∅, debounceStartedAt := 0, debounceNotBefore := 0, inFlight := true,
               lastAttemptAt := now })

/-- The retry delay of `finishWork`: backoff, raised to a longer Retry-After, then jittered, and
never below either. -/
def retryDelay (err : RefreshError) (retryJitter : Duration → Duration) : Duration :=
  let minimumDelay := exponentialBackoff c.retryBackoff c.maxRetryBackoff c.consecutiveFailures
  let minimumDelay := match err.retryAfter with
    | some retryAfter => if retryAfter > minimumDelay then retryAfter else minimumDelay
    | none => minimumDelay
  let delay := retryJitter minimumDelay
  if delay < minimumDelay then minimumDelay else delay

/-- One stream at the end of a successful refresh whose batch had the given sequence. -/
def repairStream (sequence : Nat) (state : RefreshStreamState) : RefreshStreamState :=
  if state.covered && state.live && !state.repaired && state.repairSequence != 0 &&
      decide (state.repairSequence ≤ sequence) then { state with repaired := true }
  else state

def finishWork (work : RefreshWork) (err : Option RefreshError) (env : CallEnv) :
    RefreshCoordinator :=
  let elapsed := timeSub env.now work.batch.startedAt
  let c := { c with inFlight := false, lastReasons := work.reasons,
                    lastDuration := if elapsed < 0 then 0 else elapsed }
  match err with
  | some err =>
    let c := work.pending.entries.foldl (fun c item => c.enqueueAtLocked item.1 item.2) c
    let c := { c with consecutiveFailures := c.consecutiveFailures + 1, lastError := err.message }
    { c with retryNotBefore := env.now + c.retryDelay err env.retryJitter }
  | none =>
    let c := { c with consecutiveFailures := 0, lastSuccessAt := env.now, lastError := "",
                      retryNotBefore := 0 }
    let c := { c with streams := fun source => repairStream work.batch.sequence (c.streams source) }
    c.resetPeriodicLocked env.now env.jitter

def handleTimer (env : CallEnv) : RefreshCoordinator :=
  if c.nextPeriodicAt ≠ 0 ∧ ¬ env.now < c.nextPeriodicAt then
    (c.enqueueLocked refreshReasonPeriodic).resetPeriodicLocked env.now env.jitter
  else c

/-- What the worker defers until its loop ends. -/
def exit : RefreshCoordinator := { c with running := false, inFlight := false, stopped := true }

end RefreshCoordinator

/-- A public call of the coordinator, or a step of its worker. -/
inductive RefreshOp where
  | start (hasContext : Bool)
  | stop
  | notify (reason : RefreshReason)
  | setPaused (paused : Bool)
  | setStreamCovered (stream : RefreshStream) (covered : Bool)
  | setStreamLive (stream : RefreshStream) (live needsFullRefresh : Bool)
  | invalidateStream (stream : RefreshStream) (reason : RefreshReason)
  | handleTimer
  | takeWork
  | finishWork (err : Option RefreshError)
  | exit

structure RefreshEvent where
  op : RefreshOp
  env : CallEnv

/-- The coordinator with the local variable of its worker: the work it holds while `refresh`
runs. -/
structure RefreshSystem where
  coordinator : RefreshCoordinator
  work : Option RefreshWork := none

/-- One atomic step. `mu` makes every call atomic, and `refresh` itself runs outside the lock, so
any other call may come between a take and its finish. The worker leaves its loop only with no
work in hand. -/
def RefreshSystem.step (s : RefreshSystem) (e : RefreshEvent) : RefreshSystem :=
  let c := s.coordinator
  match e.op with
  | .start hasContext =>
    match c.start hasContext e.env with
    | .ok c => { s with coordinator := c }
    | .error _ => s
  | .stop => { s with coordinator := c.stop }
  | .notify reason => { s with coordinator := c.notify reason e.env }
  | .setPaused paused => { s with coordinator := c.setPaused paused e.env }
  | .setStreamCovered stream covered =>
    { s with coordinator := c.setStreamCovered stream covered e.env }
  | .setStreamLive stream live needsFullRefresh =>
    { s with coordinator := c.setStreamLive stream live needsFullRefresh e.env }
  | .invalidateStream stream reason =>
    { s with coordinator := c.invalidateStream stream reason e.env }
  | .handleTimer => { s with coordinator := c.handleTimer e.env }
  | .takeWork =>
    match c.takeWorkLocked e.env.now with
    | some (work, c) => { coordinator := c, work := some work }
    | none => s
  | .finishWork err =>
    match s.work with
    | some work => { coordinator := c.finishWork work err e.env, work := none }
    | none => s
  | .exit => if s.work.isNone then { s with coordinator := c.exit } else s

end Meshd.Engine

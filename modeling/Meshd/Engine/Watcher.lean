import Meshd.Engine.Refresh.Repair

namespace Meshd.Engine

open Meshd.Framework

/-- The kinds of lifecycle reports; the type is an open string. -/
inductive SubscriptionLifecycleKind where
  | established
  | progressGap
  | retrying
  | terminal
  | other (kind : String)

/-- `subscriptionWatcherStreamState`. -/
structure WatcherStream where
  covered : Bool := false
  live : Bool := false
deriving DecidableEq

/-- The watcher and the coordinators it holds, each with the work of its own worker. A coordinator
is known by the number of the `SetRefreshCoordinator` call that handed it over. `calls` and
`incoming` are the rest of the critical section that holds `coordinatorMu`: the coordinator calls
still to make, and the coordinator still to be assigned. -/
structure SubscriptionWatcher where
  streamsConfigured : Bool := false
  streams : RefreshStream → WatcherStream := fun _ => {}
  coordinator : Option (Nat × RefreshSystem) := none
  handed : Nat := 0
  calls : List RefreshOp := []
  incoming : Option (Nat × RefreshSystem) := none

/-- What can happen next. The critical sections with several coordinator calls go on by `proceed`,
so that the workers may run between two of them; `refresh` is a step of the worker, or a call that
is no stream call, of the coordinator with this number. The `notify` that ends a terminal report
takes the lock again, so it is an event of its own. -/
inductive WatcherEvent where
  | message (stream : RefreshStream) (type : Option String) (env : CallEnv)
  | lifecycle (stream : RefreshStream) (kind : SubscriptionLifecycleKind) (needsFullRefresh : Bool)
      (env : CallEnv)
  | notify (reason : RefreshReason) (env : CallEnv)
  | initializeStreamCoverage (topologyCovered : Bool)
  | clearStreamCoverage
  | setRefreshCoordinator (coordinator : Option RefreshSystem)
  | proceed (env : CallEnv)
  | refresh (number : Nat) (event : RefreshEvent)

namespace SubscriptionWatcher

variable (w : SubscriptionWatcher)

def locked : Bool := !w.calls.isEmpty || w.incoming.isSome

/-- One call on the attached coordinator, if there is one. -/
def call (e : RefreshEvent) : SubscriptionWatcher :=
  { w with coordinator := w.coordinator.map fun p => (p.1, p.2.step e) }

def invalidateStream (stream : RefreshStream) (reason : RefreshReason) (env : CallEnv) :
    SubscriptionWatcher := w.call ⟨.invalidateStream stream reason, env⟩

def notify (reason : RefreshReason) (env : CallEnv) : SubscriptionWatcher :=
  w.call ⟨.notify reason, env⟩

def setStreamLive (stream : RefreshStream) (live needsFullRefresh : Bool) (env : CallEnv) :
    SubscriptionWatcher :=
  let w := { w with
    streams := Function.update w.streams stream { w.streams stream with live := live } }
  w.call ⟨.setStreamLive stream live needsFullRefresh, env⟩

def handleSubscriptionMessage (stream : RefreshStream) (type : Option String) (env : CallEnv) :
    SubscriptionWatcher :=
  match type with
  | some "event" => w.invalidateStream stream (reasonForStream stream) env
  | _ => w

def handleSubscriptionLifecycle (stream : RefreshStream) (kind : SubscriptionLifecycleKind)
    (needsFullRefresh : Bool) (env : CallEnv) : SubscriptionWatcher :=
  match kind with
  | .established => w.setStreamLive stream true needsFullRefresh env
  | .progressGap => w.setStreamLive stream false true env
  | .retrying => w.setStreamLive stream false false env
  | .terminal => w.setStreamLive stream false false env
  | .other _ => w

/-- What both coverage functions call on the attached coordinator. -/
def coverageCalls (topologyCovered deliveryCovered : Bool) : List RefreshOp :=
  [.setStreamLive refreshStreamTopology false false,
    .setStreamLive refreshStreamDelivery false false,
    .setStreamCovered refreshStreamTopology topologyCovered,
    .setStreamCovered refreshStreamDelivery deliveryCovered]

/-- The two streams as the coverage functions write them. -/
def setStreams (topology delivery : WatcherStream) : RefreshStream → WatcherStream :=
  Function.update (Function.update w.streams refreshStreamTopology topology)
    refreshStreamDelivery delivery

def initializeStreamCoverage (topologyCovered : Bool) : SubscriptionWatcher :=
  { w with
    streamsConfigured := true
    streams := w.setStreams { covered := topologyCovered } { covered := true }
    calls := if w.coordinator.isNone then [] else coverageCalls topologyCovered true }

def clearStreamCoverage : SubscriptionWatcher :=
  { w with
    streamsConfigured := false
    streams := w.setStreams {} {}
    calls := if w.coordinator.isNone then [] else coverageCalls false false }

/-- What `SetRefreshCoordinator` replays to a coordinator before it attaches it. -/
def replayCalls : List RefreshOp :=
  let topology := w.streams refreshStreamTopology
  let delivery := w.streams refreshStreamDelivery
  [.setStreamCovered refreshStreamTopology topology.covered,
    .setStreamCovered refreshStreamDelivery delivery.covered,
    .setStreamLive refreshStreamTopology topology.live topology.live,
    .setStreamLive refreshStreamDelivery delivery.live delivery.live]

def setRefreshCoordinator (coordinator : Option RefreshSystem) : SubscriptionWatcher :=
  match coordinator with
  | none => { w with coordinator := none }
  | some s =>
    { w with
      incoming := some (w.handed, s), handed := w.handed + 1
      calls := if w.streamsConfigured then w.replayCalls else [] }

/-- The holder of the lock makes its next call, or assigns the coordinator and unlocks. -/
def proceed (env : CallEnv) : SubscriptionWatcher :=
  match w.calls, w.incoming with
  | op :: calls, some (number, s) =>
    { w with calls, incoming := some (number, s.step ⟨op, env⟩) }
  | op :: calls, none => { w.call ⟨op, env⟩ with calls }
  | [], some p => { w with coordinator := some p, incoming := none }
  | [], none => w

section Proceed
variable {w} {env : CallEnv} {op : RefreshOp} {calls : List RefreshOp} {p : Nat × RefreshSystem}

theorem proceed_incoming (hc : w.calls = op :: calls) (hi : w.incoming = some p) :
    w.proceed env = { w with calls, incoming := some (p.1, p.2.step ⟨op, env⟩) } := by
  simp only [proceed]
  rw [hc, hi]

theorem proceed_attached (hc : w.calls = op :: calls) (hi : w.incoming = none) :
    w.proceed env = { w.call ⟨op, env⟩ with calls } := by
  simp only [proceed]
  rw [hc, hi]

theorem proceed_assign (hc : w.calls = []) (hi : w.incoming = some p) :
    w.proceed env = { w with coordinator := some p, incoming := none } := by
  simp only [proceed]
  rw [hc, hi]

theorem proceed_unlocked (hc : w.calls = []) (hi : w.incoming = none) : w.proceed env = w := by
  simp only [proceed]
  rw [hc, hi]

end Proceed

/-- The watcher holds this coordinator, attached or about to be. -/
def Holds (number : Nat) (s : RefreshSystem) : Prop :=
  w.coordinator = some (number, s) ∨ w.incoming = some (number, s)

/-- A step of one coordinator on its own; the lock plays no part in it. -/
def refresh (number : Nat) (e : RefreshEvent) : SubscriptionWatcher :=
  let run := fun p : Nat × RefreshSystem => if p.1 = number then (p.1, p.2.step e) else p
  { w with coordinator := w.coordinator.map run, incoming := w.incoming.map run }

/-- The event itself, once it has what it needs. -/
def act (w : SubscriptionWatcher) (e : WatcherEvent) : SubscriptionWatcher :=
  match e with
  | .message stream type env => w.handleSubscriptionMessage stream type env
  | .lifecycle stream kind needsFullRefresh env =>
    w.handleSubscriptionLifecycle stream kind needsFullRefresh env
  | .notify reason env => w.notify reason env
  | .initializeStreamCoverage topologyCovered => w.initializeStreamCoverage topologyCovered
  | .clearStreamCoverage => w.clearStreamCoverage
  | .setRefreshCoordinator coordinator => w.setRefreshCoordinator coordinator
  | .proceed env => w.proceed env
  | .refresh number event => w.refresh number event

/-- Everything but the section in progress and the coordinators' own steps takes `coordinatorMu`. -/
def needsLock : WatcherEvent → Bool
  | .proceed _ | .refresh .. => false
  | _ => true

/-- One step. What needs the lock waits while another section holds it. -/
def step (w : SubscriptionWatcher) (e : WatcherEvent) : SubscriptionWatcher :=
  if w.locked && needsLock e then w else w.act e

theorem step_of_unlocked {w : SubscriptionWatcher} {e : WatcherEvent} (h : w.locked = false) :
    w.step e = w.act e := by
  simp [step, h]

theorem step_of_locked {w : SubscriptionWatcher} {e : WatcherEvent} (h : w.locked = true)
    (he : needsLock e = true) : w.step e = w := by
  simp [step, h, he]

theorem step_of_free {w : SubscriptionWatcher} {e : WatcherEvent} (he : needsLock e = false) :
    w.step e = w.act e := by
  simp [step, he]

end SubscriptionWatcher

end Meshd.Engine

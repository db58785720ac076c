import Meshd.Engine.Convert
import Meshd.Engine.Router.Device
import Meshd.Framework.Outputs

namespace Meshd.Engine

open Meshd.Framework

/-! The status of the host's routes. Control map results and the periodic retries both write it, one
at a time, since they hold `routeApplyMu`. -/

/-- The phases, and the empty text of a state that has no route error. -/
inductive RoutingPhase
  | unset
  | userspace
  | syncing
  | ready
  | error
deriving DecidableEq

structure RoutingStatus where
  required : Bool := false
  ready : Bool := false
  phase : RoutingPhase := .unset
  lastError : String := ""
deriving DecidableEq

structure RoutingState where
  required : Bool := false
  routerReady : Bool := false
  controlError : String := ""
  routeError : String := ""
  routePhase : RoutingPhase := .unset
  controlWarned : Bool := false
  routeWarned : Bool := false
deriving DecidableEq

def initializeRoutingStatus (required : Bool) : RoutingState where
  required
  routerReady := !required

def RoutingState.routingStatusLocked (s : RoutingState) : RoutingStatus :=
  if !s.required then { ready := true, phase := .userspace }
  else
    let status : RoutingStatus := { required := true, ready := s.routerReady }
    if s.controlError ≠ "" then { status with phase := .error, lastError := s.controlError }
    else if s.routeError ≠ "" then { status with phase := s.routePhase, lastError := s.routeError }
    else if s.routerReady then { status with phase := .ready }
    else { status with phase := .syncing }

/-- The log lines "mesh control map load failed", "mesh OS route reconciliation failed", "mesh
routing recovered" and "mesh routing ready". -/
inductive RoutingLog
  | controlMapLoadFailed (error : String)
  | routeReconciliationFailed (error : String)
  | routingRecovered
  | routingReady
deriving DecidableEq

namespace RoutingState

def warnControl (s : RoutingState) : Bool := decide (s.controlError ≠ "") && !s.controlWarned

def warnRoute (s : RoutingState) : Bool := decide (s.routePhase = .error) && !s.routeWarned

def updateRoutingStatus (update : RoutingState → RoutingState) (s : RoutingState) :
    RoutingState × List RoutingLog :=
  let before := s.routingStatusLocked
  let s := update s
  let after := s.routingStatusLocked
  let warnControl := s.warnControl
  let warnRoute := s.warnRoute
  let controlWarned := s.controlWarned || warnControl
  let routeWarned := s.routeWarned || warnRoute
  let hadFailure := controlWarned || routeWarned
  let recovered := decide (after.phase = .ready) && hadFailure
  let becameReady := decide (after.phase = .ready) && decide (before.phase ≠ .ready)
  (if after.phase = .ready then { s with controlWarned := false, routeWarned := false }
    else { s with controlWarned, routeWarned },
   (if warnControl then [.controlMapLoadFailed s.controlError] else []) ++
     (if warnRoute then [.routeReconciliationFailed s.routeError] else []) ++
     (if recovered then [.routingRecovered] else if becameReady then [.routingReady] else []))

def withControlError (err : String) (s : RoutingState) : RoutingState :=
  { s with controlError := "loading control map: " ++ err }

def recordControlMapError (err : String) (s : RoutingState) : RoutingState × List RoutingLog :=
  s.updateRoutingStatus (withControlError err)

/-- What an attempt to install a config ended in: the config, or the error with its phase. -/
abbrev Attempt := Except (String × RoutingPhase) RouterConfig

def withRouteResult (result : Attempt) (freshControlResult : Bool) (s : RoutingState) :
    RoutingState :=
  let s := if freshControlResult then { s with controlError := "" } else s
  match result with
  | .ok _ => { s with routerReady := true, routeError := "", routePhase := .unset }
  | .error (err, phase) =>
    { s with routerReady := false, routeError := err, routePhase := phase }

def recordRouteResult (result : Attempt) (freshControlResult : Bool) (s : RoutingState) :
    RoutingState × List RoutingLog :=
  s.updateRoutingStatus (withRouteResult result freshControlResult)

end RoutingState

open RoutingState (Attempt)

/-- How a network map writes a prefix, and the text by which routes are sorted. -/
structure PrefixText where
  parse : String → Prefix
  string : Prefix → String

/-- Every prefix that is no longer than its address. -/
def Prefix.isValid (p : Prefix) : Bool := decide (p.bits ≤ if p.is6 then 128 else 32)

/-- The addresses that a peer is reached under. -/
def TailNode.routed (n : TailNode) : List String :=
  if n.allowedIPs ≠ [] then n.allowedIPs else n.addresses

/-- `addRoute`: the route for a prefix, if it makes one. -/
def addRoute (localAddrs : List Prefix) (p : Prefix) : Option Prefix :=
  if p.isValid = false ∨ p.bits = 0 then none
  else if p.masked ∈ localAddrs.map Prefix.masked then none
  else some p.masked

/-- The config that the host's routes follow from a network map, if this is usable. -/
def routerConfigFromNetMap (t : PrefixText) : Option NetworkMap → Option RouterConfig
  | none => none
  | some nm =>
    let localAddrs := nm.selfNode.addresses.map t.parse
    if localAddrs = [] then none
    else
      let routes := nm.peers.flatMap fun peer =>
        (peer.routed.map t.parse).filterMap (addRoute localAddrs)
      some { localAddrs, routes := routes.dedup.mergeSort fun p q => t.string p ≤ t.string q }

/-- The fields of the engine that the route handlers use. -/
structure RouteEngine where
  osRouter : Bool
  routing : RoutingState
  routeConfig : Option RouterConfig := none

/-- What a handler has done: its attempt to install a config, if it made one, and its log lines. -/
structure RouteEffect where
  attempt : Option Attempt := none
  logs : List RoutingLog := []

namespace RouteEngine

/-- The engine at its start. -/
def init (osRouter required : Bool) : RouteEngine where
  osRouter
  routing := initializeRoutingStatus required

/-- `answer` is what `Set` returns, should it be called. -/
def attempt (e : RouteEngine) (cfg : Option RouterConfig) (answer : Except String Unit) : Attempt :=
  if !e.osRouter then .error ("OS router is unavailable", .error)
  else
    match cfg with
    | none => .error ("no usable network map addresses yet", .syncing)
    | some cfg =>
      match answer with
      | .error err => .error ("configuring OS routes: " ++ err, .error)
      | .ok () => .ok cfg

def applyTUNRouteConfigLocked (e : RouteEngine) (cfg : Option RouterConfig)
    (answer : Except String Unit) (freshControlResult : Bool) : RouteEngine × RouteEffect :=
  let result := e.attempt cfg answer
  let (routing, logs) := e.routing.recordRouteResult result freshControlResult
  ({ e with routing }, { attempt := some result, logs })

def reconcileTUNRoutes (e : RouteEngine) (answer : Except String Unit) :
    RouteEngine × RouteEffect :=
  if !e.routing.routingStatusLocked.required then (e, {})
  else e.applyTUNRouteConfigLocked e.routeConfig answer false

def handleControlMapResult (t : PrefixText) (e : RouteEngine)
    (result : Except String (Option NetworkMap)) (answer : Except String Unit) :
    RouteEngine × RouteEffect :=
  if !e.routing.routingStatusLocked.required then (e, {})
  else
    match result with
    | .error err =>
      let (routing, logs) := e.routing.recordControlMapError err
      ({ e with routing }, { logs })
    | .ok nm =>
      let cfg := routerConfigFromNetMap t nm
      { e with routeConfig := cfg }.applyTUNRouteConfigLocked cfg answer true

/-- A result from the control plane or a retry, with the answer of the router. -/
inductive Event
  | controlMap (result : Except String (Option NetworkMap)) (answer : Except String Unit)
  | reconcile (answer : Except String Unit)

def handle (t : PrefixText) (e : RouteEngine) : Event → RouteEngine × RouteEffect
  | .controlMap result answer => handleControlMapResult t e result answer
  | .reconcile answer => e.reconcileTUNRoutes answer

def step (t : PrefixText) (e : RouteEngine) (ev : Event) : RouteEngine := (e.handle t ev).1

/-- The log lines of a run, oldest first. -/
def logs (t : PrefixText) : RouteEngine → List Event → List RoutingLog :=
  outputs (step t) fun e ev => (e.handle t ev).2.logs

def status (e : RouteEngine) : RoutingStatus := e.routing.routingStatusLocked

end RouteEngine

/-! What an update of the status does to the flags and logs. -/

namespace RoutingState

variable {s : RoutingState} {update : RoutingState → RoutingState}

theorem required_routingStatusLocked (s : RoutingState) :
    s.routingStatusLocked.required = s.required := by
  unfold routingStatusLocked
  split_ifs with h <;> simp_all

/-- An update sets the fields it is given to set, and otherwise the flags alone. -/
theorem updateRoutingStatus_fst (update : RoutingState → RoutingState) (s : RoutingState) :
    ∃ controlWarned routeWarned,
      (s.updateRoutingStatus update).1 = { update s with controlWarned, routeWarned } := by
  by_cases hphase : (update s).routingStatusLocked.phase = .ready
  · exact ⟨false, false, if_pos hphase⟩
  · exact ⟨_, _, if_neg hphase⟩

/-- A state of an engine that requires routes, with a phase for its route error only. -/
structure Sound (s : RoutingState) : Prop where
  required : s.required = true
  unset : s.routeError = "" → s.routePhase = .unset
  not_ready : s.routePhase ≠ .ready

theorem Sound.ready (h : s.Sound) : s.routingStatusLocked.ready = s.routerReady := by
  unfold routingStatusLocked
  simp only [h.required, Bool.not_true, Bool.false_eq_true, if_false]
  split_ifs <;> rfl

theorem Sound.updateRoutingStatus (h : (update s).Sound) :
    (s.updateRoutingStatus update).1.Sound := by
  obtain ⟨c, r, hstate⟩ := updateRoutingStatus_fst update s
  rw [hstate]
  exact ⟨h.required, h.unset, h.not_ready⟩

theorem Sound.withControlError (h : s.Sound) (err : String) : (s.withControlError err).Sound :=
  ⟨h.required, h.unset, h.not_ready⟩

end RoutingState

namespace RouteEngine

variable {t : PrefixText} {e : RouteEngine}

/-- What one event can do to an engine that requires routes: note a control error, or record an
attempt to install the config that it then holds. -/
theorem handle_cases (h : e.routing.required = true) (ev : Event) :
    (∃ err answer, ev = .controlMap (.error err) answer ∧
      e.handle t ev = ({ e with routing := (e.routing.recordControlMapError err).1 },
        { logs := (e.routing.recordControlMapError err).2 })) ∨
    (∃ nm answer, ev = .controlMap (.ok nm) answer ∧
      e.handle t ev = { e with routeConfig := routerConfigFromNetMap t nm }.applyTUNRouteConfigLocked
        (routerConfigFromNetMap t nm) answer true) ∨
    ∃ answer, ev = .reconcile answer ∧
      e.handle t ev = e.applyTUNRouteConfigLocked e.routeConfig answer false := by
  have hrequired : e.routing.routingStatusLocked.required = true := by
    rw [RoutingState.required_routingStatusLocked, h]
  cases ev with
  | controlMap result answer =>
    cases result with
    | error err => exact .inl ⟨err, answer, rfl, by simp [handle, handleControlMapResult, hrequired]⟩
    | ok nm =>
      exact .inr (.inl ⟨nm, answer, rfl, by simp [handle, handleControlMapResult, hrequired]⟩)
  | reconcile answer =>
    exact .inr (.inr ⟨answer, rfl, by simp [handle, reconcileTUNRoutes, hrequired]⟩)

def Event.answer : Event → Except String Unit
  | .controlMap _ answer => answer
  | .reconcile answer => answer

section Segment
variable {es : List Event}

end Segment

end RouteEngine

end Meshd.Engine

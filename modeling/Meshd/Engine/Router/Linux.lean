import Meshd.Engine.Router.Device
import Meshd.Framework.Run

namespace Meshd.Engine

open Meshd.Framework

/-- Which `ip` commands of a call fail, by their number among those of their kind. An addition that
reports "File exists" has not failed. -/
structure LinuxFaults where
  delAddr : Nat → Bool := fun _ => false
  addAddr : Nat → Bool := fun _ => false
  delRoute : Nat → Bool := fun _ => false
  addRoute : Nat → Bool := fun _ => false

/-- One call of `Set`. -/
structure LinuxCall where
  cfg : Option RouterConfig
  faults : LinuxFaults := {}

/-- What the router believes of the device, and the device. -/
structure LinuxRouter where
  addrs : List Prefix := []
  routes : List Prefix := []
  device : Device := {}

/-- The items a router drops, and those it asks for anew. -/
def staleItems (known want : List Prefix) : List Prefix := known.filter (· ∉ want)

def missingItems (known want : List Prefix) : List Prefix := want.filter (· ∉ known)

/-- The body that `syncAddrs` and `syncRoutes` share: the items after it, the belief and whether it
returned nil. A failed removal is only logged; a failed addition ends the call before the belief is
updated. -/
def syncItems (known want : List Prefix) (del add : Nat → Bool) (items : Finset Prefix) :
    Finset Prefix × List Prefix × Bool :=
  let added := insertUntil add 0 (missingItems known want)
    (eraseEach del 0 (staleItems known want) items)
  (added.1, if added.2 then known.filter (· ∈ want) ++ missingItems known want else known, added.2)

namespace LinuxRouter

def syncAddrs (r : LinuxRouter) (want : List Prefix) (faults : LinuxFaults) : LinuxRouter × Bool :=
  let synced := syncItems r.addrs want faults.delAddr faults.addAddr r.device.addrs
  ({ r with addrs := synced.2.1, device := { r.device with addrs := synced.1 } }, synced.2.2)

def syncRoutes (r : LinuxRouter) (want : List Prefix) (faults : LinuxFaults) : LinuxRouter × Bool :=
  let synced := syncItems r.routes want faults.delRoute faults.addRoute r.device.routes
  ({ r with routes := synced.2.1, device := { r.device with routes := synced.1 } }, synced.2.2)

/-- `cleanup` ignores every error. -/
def cleanup (r : LinuxRouter) (faults : LinuxFaults) : LinuxRouter :=
  { addrs := [], routes := []
    device :=
      { addrs := eraseEach faults.delAddr 0 r.addrs r.device.addrs
        routes := eraseEach faults.delRoute 0 r.routes r.device.routes } }

/-- `Set`, and whether it returned nil. -/
def set (r : LinuxRouter) (call : LinuxCall) : LinuxRouter × Bool :=
  match call.cfg with
  | none => (r.cleanup call.faults, true)
  | some cfg =>
    let withAddrs := r.syncAddrs cfg.localAddrs call.faults
    if withAddrs.2 then withAddrs.1.syncRoutes cfg.tunnelRoutes call.faults
    else withAddrs

def step (r : LinuxRouter) (call : LinuxCall) : LinuxRouter := (r.set call).1

end LinuxRouter

/-- Either the removals reach every stale item and no addition fails, or no removal succeeds and the
first addition fails. -/
def SyncsOrKeeps (known want : List Prefix) (del add : Nat → Bool) : Prop :=
  (∀ a ∈ staleItems known want, ∃ k, (staleItems known want)[k]? = some a ∧ del k = false) ∧
    (∀ k < (missingItems known want).length, add k = false) ∨
  (∀ k < (staleItems known want).length, del k = true) ∧ missingItems known want ≠ [] ∧
    add 0 = true

namespace LinuxRouter

/-- The condition on a call: on the addresses, on the routes where no address failed, and for a nil
config that a removal reaches every known item. -/
def Settles (r : LinuxRouter) (call : LinuxCall) : Prop :=
  match call.cfg with
  | none =>
    (∀ a ∈ r.addrs, ∃ k, r.addrs[k]? = some a ∧ call.faults.delAddr k = false) ∧
    (∀ a ∈ r.routes, ∃ k, r.routes[k]? = some a ∧ call.faults.delRoute k = false)
  | some cfg =>
    SyncsOrKeeps r.addrs cfg.localAddrs call.faults.delAddr call.faults.addAddr ∧
    ((∀ k < (missingItems r.addrs cfg.localAddrs).length, call.faults.addAddr k = false) →
      SyncsOrKeeps r.routes cfg.tunnelRoutes call.faults.delRoute call.faults.addRoute)

/-- The router's belief is true. -/
structure Synced (r : LinuxRouter) : Prop where
  addrs : r.device.addrs = r.addrs.toFinset
  routes : r.device.routes = r.routes.toFinset

end LinuxRouter

/-- The removals that reach every item of a list remove them all. -/
theorem eraseEach_of_reached {del : Nat → Bool} {l : List Prefix}
    (h : ∀ a ∈ l, ∃ k, l[k]? = some a ∧ del k = false) (items : Finset Prefix) :
    eraseEach del 0 l items = items.filter (· ∉ l) := by
  ext x
  rw [mem_eraseEach, Finset.mem_filter]
  refine and_congr_right fun _ => ⟨fun hx hmem => ?_, fun hx i hi => ?_⟩
  · obtain ⟨k, hk, hdel⟩ := h x hmem
    have hfault := hx k hk
    rw [Nat.zero_add, hdel] at hfault
    cases hfault
  · exact absurd (List.mem_of_getElem? hi) hx

/-- One `sync` from a true belief: the new belief is true, and where it returned nil the items are
the wanted ones. -/
theorem syncItems_spec {known want : List Prefix} {del add : Nat → Bool}
    (h : SyncsOrKeeps known want del add) :
    (syncItems known want del add known.toFinset).1 =
      (syncItems known want del add known.toFinset).2.1.toFinset ∧
    ((syncItems known want del add known.toFinset).2.2 = true →
      (syncItems known want del add known.toFinset).1 = want.toFinset) := by
  obtain ⟨hdel, hadd⟩ | ⟨hdel, hne, hadd⟩ := h
  · have hitems : insertUntil add 0 (missingItems known want)
        (eraseEach del 0 (staleItems known want) known.toFinset) = (want.toFinset, true) := by
      rw [insertUntil_of_no_fault (by simpa using hadd), eraseEach_of_reached hdel]
      congr 1
      ext x
      simp only [Finset.mem_union, Finset.mem_filter, List.mem_toFinset, staleItems, missingItems,
        List.mem_filter, decide_eq_true_eq]
      tauto
    have hbelief : (known.filter (· ∈ want) ++ missingItems known want).toFinset =
        want.toFinset := by
      ext x
      simp only [List.mem_toFinset, List.mem_append, List.mem_filter, missingItems,
        decide_eq_true_eq]
      tauto
    simp only [syncItems, hitems, if_true, hbelief]
    exact ⟨trivial, fun _ => trivial⟩
  · obtain ⟨a, rest, hmissing⟩ := List.exists_cons_of_ne_nil hne
    have hitems : insertUntil add 0 (missingItems known want)
        (eraseEach del 0 (staleItems known want) known.toFinset) = (known.toFinset, false) := by
      rw [hmissing, insertUntil, if_pos hadd, eraseEach_of_fault hdel]
    simp only [syncItems, hitems]
    exact ⟨rfl, fun hfalse => by cases hfalse⟩

namespace LinuxRouter

variable {r : LinuxRouter} {call : LinuxCall}

theorem Synced.cleanup (h : r.Synced) (faults : LinuxFaults)
    (haddrs : ∀ a ∈ r.addrs, ∃ k, r.addrs[k]? = some a ∧ faults.delAddr k = false)
    (hroutes : ∀ a ∈ r.routes, ∃ k, r.routes[k]? = some a ∧ faults.delRoute k = false) :
    (r.cleanup faults).device = {} := by
  have hempty (l : List Prefix) : l.toFinset.filter (· ∉ l) = ∅ := by
    ext x
    simp
  rw [LinuxRouter.cleanup, h.addrs, h.routes, eraseEach_of_reached haddrs,
    eraseEach_of_reached hroutes, hempty, hempty]

/-- A call that settles leaves a true belief, and where it returns nil the device is the desired
one. -/
theorem Synced.set (h : r.Synced) (hs : r.Settles call) :
    (r.set call).1.Synced ∧ ((r.set call).2 = true → (r.set call).1.device = desired call.cfg) := by
  rw [Settles] at hs
  rw [LinuxRouter.set]
  cases hcfg : call.cfg with
  | none =>
    rw [hcfg] at hs
    have hdev := h.cleanup call.faults hs.1 hs.2
    refine ⟨⟨?_, ?_⟩, fun _ => hdev⟩
    · rw [hdev]
      rfl
    · rw [hdev]
      rfl
  | some cfg =>
    rw [hcfg] at hs
    obtain ⟨hbelief, hwant⟩ := syncItems_spec hs.1
    rw [← h.addrs] at hbelief hwant
    dsimp only
    split_ifs with hok
    · have hadded : ∀ k < (missingItems r.addrs cfg.localAddrs).length,
          call.faults.addAddr k = false := by
        simpa using insertUntil_snd.mp hok
      obtain ⟨hbelief', hwant'⟩ := syncItems_spec (hs.2 hadded)
      rw [← h.routes] at hbelief' hwant'
      refine ⟨⟨hbelief, hbelief'⟩, fun hnil => ?_⟩
      exact congrArg₂ Device.mk (hwant hok) (hwant' hnil)
    · exact ⟨⟨hbelief, h.routes⟩, fun hnil => absurd hnil hok⟩

/-- From a bare device, in a run whose calls all settle, every call that returns nil leaves the
device exactly as its config asks. -/
theorem set_converges {calls : List LinuxCall} (h : Along step Settles {} calls) {k : Nat}
    (hk : calls[k]? = some call) (hnil : ((stateAt step {} calls k).set call).2 = true) :
    ((stateAt step {} calls k).set call).1.device = desired call.cfg := by
  have hsynced : (stateAt step {} calls k).Synced :=
    along_history (P := fun _ r => r.Synced) ⟨rfl, rfl⟩ (fun _ _ hs ih => (ih.set hs).1)
      (calls.take k) (h.take k)
  exact (hsynced.set (h k call hk)).2 hnil

/-- A config with one address and no routes. -/
def oneAddr (host : Nat) : RouterConfig where
  localAddrs := [⟨false, host, 32⟩]

theorem set_converges_twice :
    (stateAt step {} [⟨some (oneAddr 1), {}⟩, ⟨some (oneAddr 2), {}⟩] 2).device =
      desired (some (oneAddr 2)) := by
  have hsettles (r : LinuxRouter) (cfg : RouterConfig) : r.Settles ⟨some cfg, {}⟩ := by
    have hall (known want : List Prefix) :
        SyncsOrKeeps known want (fun _ => false) fun _ => false := by
      refine .inl ⟨fun a ha => ?_, fun _ _ => rfl⟩
      obtain ⟨k, hk⟩ := List.mem_iff_getElem?.mp ha
      exact ⟨k, hk, rfl⟩
    exact ⟨hall _ _, fun _ => hall _ _⟩
  exact set_converges (along_cons.mpr ⟨hsettles _ _, along_cons.mpr ⟨hsettles _ _, along_nil⟩⟩)
    (k := 1) rfl (by decide)

/-- The removal of the old address fails, the call returns nil, and the address stays. -/
theorem set_leaves_address :
    ((exec step {} [⟨some (oneAddr 1), {}⟩]).set
      ⟨some (oneAddr 2), { delAddr := fun _ => true }⟩).2 = true ∧
    ((exec step {} [⟨some (oneAddr 1), {}⟩]).set
      ⟨some (oneAddr 2), { delAddr := fun _ => true }⟩).1.device =
        { addrs := {⟨false, 1, 32⟩, ⟨false, 2, 32⟩} } ∧
    { addrs := {⟨false, 1, 32⟩, ⟨false, 2, 32⟩} } ≠ desired (some (oneAddr 2)) := by
  decide

end LinuxRouter

end Meshd.Engine

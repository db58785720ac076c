import Meshd.Engine.Router.Device
import Meshd.Framework.Run

namespace Meshd.Engine

open Meshd.Framework

/-- Which commands of a call fail with another error than "already exists" or "already gone", and
after which removal of a last address the system drops the routes. Address commands are numbered;
the routes are the keys of a map, in no order. -/
structure DarwinFaults where
  delAddr : Nat → Bool := fun _ => false
  addAddr : Nat → Bool := fun _ => false
  delRoute : Prefix → Bool := fun _ => false
  addRoute : Prefix → Bool := fun _ => false
  dropsRoutes : Nat → Bool := fun _ => false

structure DarwinCall where
  cfg : Option RouterConfig
  faults : DarwinFaults := {}

/-- What the router believes of the device, and the device. -/
structure DarwinRouter where
  addrs : List Prefix := []
  routes : Finset Prefix := ∅
  device : Device := {}

def diffPrefixes (known want : List Prefix) : List Prefix := known.filter (· ∉ want)

namespace Device

/-- `ifconfig -alias`, one command for each address. -/
def deleteAddrs (faults : DarwinFaults) : Nat → List Prefix → Device → Device
  | _, [], device => device
  | k, addr :: rest, device =>
    deleteAddrs faults (k + 1) rest
      (if faults.delAddr k ∨ addr ∉ device.addrs then device
      else
        { addrs := device.addrs.erase addr
          routes := if device.addrs.erase addr = ∅ ∧ faults.dropsRoutes k then ∅
            else device.routes })

def addAddrs (faults : DarwinFaults) (addrs : List Prefix) (device : Device) : Device :=
  { device with addrs := insertEach faults.addAddr 0 addrs device.addrs }

/-- `route delete` and `route add` name the masked prefix. -/
def deleteRoutes (faults : DarwinFaults) (routes : Finset Prefix) (device : Device) : Device :=
  { device with
    routes := device.routes \ (routes.filter (faults.delRoute · = false)).image Prefix.masked }

def addRoutes (faults : DarwinFaults) (routes : Finset Prefix) (device : Device) : Device :=
  { device with
    routes := device.routes ∪ (routes.filter (faults.addRoute · = false)).image Prefix.masked }

end Device

namespace DarwinRouter

/-- All commands are tried; the belief is cleared where none failed. -/
def cleanup (r : DarwinRouter) (faults : DarwinFaults) : DarwinRouter × Bool :=
  let device := (r.device.deleteRoutes faults r.routes).deleteAddrs faults 0 r.addrs
  let ok := decide (∀ rt ∈ r.routes, faults.delRoute rt = false) &&
    !anyFault faults.delAddr r.addrs.length
  (if ok then { device } else { r with device }, ok)

def addrsToRemove (r : DarwinRouter) (cfg : RouterConfig) : List Prefix :=
  diffPrefixes r.addrs cfg.localAddrs

def addrsToAdd (r : DarwinRouter) (cfg : RouterConfig) : List Prefix :=
  diffPrefixes cfg.localAddrs r.addrs

/-- Every known address goes. -/
def resetRoutes (r : DarwinRouter) (cfg : RouterConfig) : Prop :=
  r.addrs.length > 0 ∧ (r.addrsToRemove cfg).length = r.addrs.length

instance (r : DarwinRouter) (cfg : RouterConfig) : Decidable (r.resetRoutes cfg) :=
  inferInstanceAs (Decidable (_ ∧ _))

def newRoutes (cfg : RouterConfig) : Finset Prefix := cfg.tunnelRoutes.toFinset

def routesToRemove (r : DarwinRouter) (cfg : RouterConfig) : Finset Prefix :=
  r.routes.filter fun rt => r.resetRoutes cfg ∨ rt ∉ newRoutes cfg

def routesToAdd (r : DarwinRouter) (cfg : RouterConfig) : Finset Prefix :=
  (newRoutes cfg).filter fun rt => r.resetRoutes cfg ∨ rt ∉ r.routes

/-- No command of the call fails. -/
def noFault (r : DarwinRouter) (cfg : RouterConfig) (faults : DarwinFaults) : Bool :=
  !anyFault faults.delAddr (r.addrsToRemove cfg).length &&
  !anyFault faults.addAddr (r.addrsToAdd cfg).length &&
  decide (∀ rt ∈ r.routesToRemove cfg, faults.delRoute rt = false) &&
  decide (∀ rt ∈ r.routesToAdd cfg, faults.addRoute rt = false)

/-- All commands are tried, in the order of the source; the belief is replaced where none failed. -/
def syncAddrsAndRoutes (r : DarwinRouter) (cfg : RouterConfig) (faults : DarwinFaults) :
    DarwinRouter × Bool :=
  let device := (((r.device.deleteAddrs faults 0 (r.addrsToRemove cfg)).addAddrs faults
    (r.addrsToAdd cfg)).deleteRoutes faults (r.routesToRemove cfg)).addRoutes faults
    (r.routesToAdd cfg)
  (if r.noFault cfg faults then { addrs := cfg.localAddrs, routes := newRoutes cfg, device }
    else { r with device }, r.noFault cfg faults)

/-- `Set`, and whether it returned nil. -/
def set (r : DarwinRouter) (call : DarwinCall) : DarwinRouter × Bool :=
  match call.cfg with
  | none => r.cleanup call.faults
  | some cfg => r.syncAddrsAndRoutes cfg call.faults

def step (r : DarwinRouter) (call : DarwinCall) : DarwinRouter := (r.set call).1

/-- The belief is true. -/
structure Synced (r : DarwinRouter) : Prop where
  addrs : r.device.addrs = r.addrs.toFinset
  routes : r.device.routes = r.routes
  masked : ∀ rt ∈ r.routes, rt.masked = rt

/-- No command of the call fails. -/
structure GoesThrough (r : DarwinRouter) (cfg : RouterConfig) (faults : DarwinFaults) : Prop where
  delAddr : ∀ k < (r.addrsToRemove cfg).length, faults.delAddr k = false
  addAddr : ∀ k < (r.addrsToAdd cfg).length, faults.addAddr k = false
  delRoute : ∀ rt ∈ r.routesToRemove cfg, faults.delRoute rt = false
  addRoute : ∀ rt ∈ r.routesToAdd cfg, faults.addRoute rt = false

/-- No address command succeeds, and on each route the successful commands come to nothing. -/
structure Keeps (r : DarwinRouter) (cfg : RouterConfig) (faults : DarwinFaults) : Prop where
  delAddr : ∀ k < (r.addrsToRemove cfg).length, faults.delAddr k = true
  addAddr : ∀ k < (r.addrsToAdd cfg).length, faults.addAddr k = true
  delRoute : ∀ rt ∈ r.routesToRemove cfg,
    faults.delRoute rt = true ∨ rt ∈ r.routesToAdd cfg ∧ faults.addRoute rt = false
  addRoute : ∀ rt ∈ r.routesToAdd cfg, rt ∉ r.routes → faults.addRoute rt = true

/-- The condition on a call: its routes have no host bits, and it goes through or comes to
nothing. -/
def Settles (r : DarwinRouter) (call : DarwinCall) : Prop :=
  match call.cfg with
  | none =>
    (∀ rt ∈ r.routes, call.faults.delRoute rt = false) ∧
      (∀ k < r.addrs.length, call.faults.delAddr k = false) ∨
    (∀ rt ∈ r.routes, call.faults.delRoute rt = true) ∧
      (∀ k < r.addrs.length, call.faults.delAddr k = true)
  | some cfg => (∀ rt ∈ cfg.tunnelRoutes, rt.masked = rt) ∧
      (r.GoesThrough cfg call.faults ∨ r.Keeps cfg call.faults)

end DarwinRouter

namespace Device

variable {faults : DarwinFaults}

theorem addrs_deleteAddrs (k : Nat) (l : List Prefix) (device : Device) :
    (device.deleteAddrs faults k l).addrs = eraseEach faults.delAddr k l device.addrs := by
  induction l generalizing k device with
  | nil => rfl
  | cons addr rest ih =>
    rw [deleteAddrs, eraseEach, ih]
    congr 1
    by_cases hf : faults.delAddr k = true
    · simp [hf]
    · by_cases hmem : addr ∈ device.addrs
      · simp [hf, hmem]
      · simp [hf, hmem]

theorem deleteAddrs_of_bare {device : Device} (h : device.addrs = ∅) (k : Nat) (l : List Prefix) :
    device.deleteAddrs faults k l = device := by
  induction l generalizing k with
  | nil => rfl
  | cons addr rest ih =>
    rw [deleteAddrs, if_pos (.inr (by simp [h]))]
    exact ih (k + 1)

/-- The routes stay, unless they are dropped with the last address. -/
theorem routes_deleteAddrs (faults : DarwinFaults) (k : Nat) (l : List Prefix) (device : Device) :
    (device.deleteAddrs faults k l).routes = device.routes ∨
    (device.deleteAddrs faults k l).routes = ∅ ∧ (device.deleteAddrs faults k l).addrs = ∅ := by
  induction l generalizing k device with
  | nil => exact .inl rfl
  | cons addr rest ih =>
    rw [deleteAddrs]
    split_ifs with hkeep hdrop
    · exact ih (k + 1) device
    · rw [deleteAddrs_of_bare hdrop.1]
      exact .inr ⟨rfl, hdrop.1⟩
    · exact ih (k + 1) _

theorem deleteAddrs_of_fault {l : List Prefix} {k : Nat}
    (h : ∀ i < l.length, faults.delAddr (k + i) = true) (device : Device) :
    device.deleteAddrs faults k l = device := by
  induction l generalizing k with
  | nil => rfl
  | cons addr rest ih =>
    have h0 : faults.delAddr k = true := h 0 (by simp)
    rw [deleteAddrs, if_pos (.inl h0)]
    refine ih fun i hi => ?_
    rw [Nat.add_assoc, Nat.add_comm 1 i]
    exact h (i + 1) (by simpa using hi)

end Device

/-- Masking changes nothing on routes without host bits. -/
theorem image_masked {routes : Finset Prefix} (h : ∀ rt ∈ routes, rt.masked = rt) :
    routes.image Prefix.masked = routes := by
  ext x
  simp only [Finset.mem_image]
  constructor
  · rintro ⟨rt, hrt, rfl⟩
    rwa [h rt hrt]
  · intro hx
    exact ⟨x, hx, h x hx⟩

namespace DarwinRouter

variable {r : DarwinRouter} {call : DarwinCall} {cfg : RouterConfig} {faults : DarwinFaults}

theorem noFault_iff : r.noFault cfg faults = true ↔ r.GoesThrough cfg faults := by
  simp only [noFault, Bool.and_eq_true, Bool.not_eq_true', anyFault_eq_false, decide_eq_true_eq]
  constructor
  · rintro ⟨⟨⟨h₁, h₂⟩, h₃⟩, h₄⟩
    exact ⟨h₁, h₂, h₃, h₄⟩
  · rintro ⟨h₁, h₂, h₃, h₄⟩
    exact ⟨⟨⟨h₁, h₂⟩, h₃⟩, h₄⟩

/-- The device after the commands of a call. -/
theorem device_syncAddrsAndRoutes (r : DarwinRouter) (cfg : RouterConfig) (faults : DarwinFaults) :
    (r.syncAddrsAndRoutes cfg faults).1.device =
      { addrs := insertEach faults.addAddr 0 (r.addrsToAdd cfg)
          (eraseEach faults.delAddr 0 (r.addrsToRemove cfg) r.device.addrs)
        routes := (r.device.deleteAddrs faults 0 (r.addrsToRemove cfg)).routes \
            ((r.routesToRemove cfg).filter (faults.delRoute · = false)).image Prefix.masked ∪
          ((r.routesToAdd cfg).filter (faults.addRoute · = false)).image Prefix.masked } := by
  have hdev : (r.syncAddrsAndRoutes cfg faults).1.device =
      (((r.device.deleteAddrs faults 0 (r.addrsToRemove cfg)).addAddrs faults
        (r.addrsToAdd cfg)).deleteRoutes faults (r.routesToRemove cfg)).addRoutes faults
        (r.routesToAdd cfg) := by
    rw [syncAddrsAndRoutes]
    dsimp only
    split_ifs
    · rfl
    · rfl
  rw [hdev, Device.addRoutes, Device.deleteRoutes, Device.addAddrs, ← Device.addrs_deleteAddrs]

/-- While an address stays, so do the routes. -/
theorem Synced.routes_deleteAddrs (h : r.Synced) (hreset : ¬ r.resetRoutes cfg) :
    (r.device.deleteAddrs faults 0 (r.addrsToRemove cfg)).routes = r.routes := by
  rw [← h.routes]
  by_cases hnone : r.addrs = []
  · simp [addrsToRemove, diffPrefixes, hnone, Device.deleteAddrs]
  obtain ⟨a, ha, hwant⟩ : ∃ a ∈ r.addrs, a ∈ cfg.localAddrs := by
    by_contra hall
    push Not at hall
    refine hreset ⟨List.length_pos_iff.mpr hnone, ?_⟩
    rw [addrsToRemove, diffPrefixes, List.length_filter_eq_length_iff]
    exact fun a ha => by simpa using hall a ha
  refine (Device.routes_deleteAddrs faults 0 _ r.device).resolve_right fun ⟨_, haddrs⟩ => ?_
  have hstays : a ∈ (r.device.deleteAddrs faults 0 (r.addrsToRemove cfg)).addrs := by
    rw [Device.addrs_deleteAddrs, mem_eraseEach, h.addrs, List.mem_toFinset]
    refine ⟨ha, fun i hi => ?_⟩
    have hstale : a ∈ r.addrsToRemove cfg := List.mem_of_getElem? hi
    simp [addrsToRemove, diffPrefixes, hwant] at hstale
  rw [haddrs] at hstays
  simp at hstays

/-- Where no command fails the device is the wanted one, from any true belief. -/
theorem Synced.goesThrough (h : r.Synced) (hmasked : ∀ rt ∈ cfg.tunnelRoutes, rt.masked = rt)
    (hg : r.GoesThrough cfg faults) :
    (r.syncAddrsAndRoutes cfg faults).1.device = desired (some cfg) := by
  have hnew : ∀ rt ∈ newRoutes cfg, rt.masked = rt := fun rt hrt =>
    hmasked rt (List.mem_toFinset.mp hrt)
  have hdel : ((r.routesToRemove cfg).filter (faults.delRoute · = false)).image Prefix.masked =
      r.routesToRemove cfg := by
    rw [Finset.filter_true_of_mem hg.delRoute]
    exact image_masked fun rt hrt => h.masked rt (Finset.mem_filter.mp hrt).1
  have hadd : ((r.routesToAdd cfg).filter (faults.addRoute · = false)).image Prefix.masked =
      r.routesToAdd cfg := by
    rw [Finset.filter_true_of_mem hg.addRoute]
    exact image_masked fun rt hrt => hnew rt (Finset.mem_filter.mp hrt).1
  rw [device_syncAddrsAndRoutes, hdel, hadd, eraseEach_of_no_fault hg.delAddr,
    insertEach_of_no_fault hg.addAddr, h.addrs]
  apply Device.ext
  · ext x
    simp only [addrsToRemove, addrsToAdd, diffPrefixes, desired, Finset.mem_union,
      Finset.mem_filter, List.mem_toFinset, List.mem_filter, decide_eq_true_eq]
    tauto
  · change _ = newRoutes cfg
    ext x
    by_cases hreset : r.resetRoutes cfg
    · -- all known routes go, whatever is left of them, and all new ones come
      have hsub : x ∈ (r.device.deleteAddrs faults 0 (r.addrsToRemove cfg)).routes →
          x ∈ r.routes := by
        obtain he | ⟨he, -⟩ := Device.routes_deleteAddrs faults 0
          (r.addrsToRemove cfg) r.device
        · rw [he, h.routes]
          exact id
        · rw [he]
          simp
      simp only [routesToRemove, routesToAdd, hreset, true_or, Finset.filter_true,
        Finset.mem_union, Finset.mem_sdiff]
      tauto
    · rw [h.routes_deleteAddrs hreset]
      simp only [routesToRemove, routesToAdd, hreset, false_or, Finset.mem_union,
        Finset.mem_sdiff, Finset.mem_filter]
      tauto

/-- Where the commands come to nothing the device stays as it is. -/
theorem Synced.keeps (h : r.Synced) (hmasked : ∀ rt ∈ cfg.tunnelRoutes, rt.masked = rt)
    (hk : r.Keeps cfg faults) : (r.syncAddrsAndRoutes cfg faults).1.device = r.device := by
  have hbare : r.device.deleteAddrs faults 0 (r.addrsToRemove cfg) = r.device :=
    Device.deleteAddrs_of_fault (by simpa using hk.delAddr) r.device
  have hdel : ((r.routesToRemove cfg).filter (faults.delRoute · = false)).image Prefix.masked =
      (r.routesToRemove cfg).filter (faults.delRoute · = false) :=
    image_masked fun rt hrt =>
      h.masked rt (Finset.mem_filter.mp (Finset.mem_filter.mp hrt).1).1
  have hadd : ((r.routesToAdd cfg).filter (faults.addRoute · = false)).image Prefix.masked =
      (r.routesToAdd cfg).filter (faults.addRoute · = false) :=
    image_masked fun rt hrt => hmasked rt
      (List.mem_toFinset.mp (Finset.mem_filter.mp (Finset.mem_filter.mp hrt).1).1)
  rw [device_syncAddrsAndRoutes, hdel, hadd, hbare, eraseEach_of_fault hk.delAddr,
    insertEach_of_fault hk.addAddr]
  refine Device.ext rfl ?_
  ext x
  simp only [Finset.mem_union, Finset.mem_sdiff, Finset.mem_filter, h.routes]
  constructor
  · rintro (⟨hx, -⟩ | ⟨hx, hok⟩)
    · exact hx
    · by_contra hnot
      rw [hk.addRoute x hx hnot] at hok
      cases hok
  · intro hx
    by_cases hgone : x ∈ r.routesToRemove cfg ∧ faults.delRoute x = false
    · refine .inr ((hk.delRoute x hgone.1).resolve_left fun hf => ?_)
      rw [hgone.2] at hf
      cases hf
    · exact .inl ⟨hx, hgone⟩

theorem Synced.cleanup_device (h : r.Synced)
    (hroutes : ∀ rt ∈ r.routes, faults.delRoute rt = false)
    (haddrs : ∀ k < r.addrs.length, faults.delAddr k = false) :
    (r.device.deleteRoutes faults r.routes).deleteAddrs faults 0 r.addrs = {} := by
  have hnone : (r.device.deleteRoutes faults r.routes).routes = ∅ := by
    rw [Device.deleteRoutes, Finset.filter_true_of_mem hroutes, image_masked h.masked, h.routes]
    exact Finset.sdiff_self _
  apply Device.ext
  · rw [Device.addrs_deleteAddrs, eraseEach_of_no_fault haddrs]
    change r.device.addrs.filter (· ∉ r.addrs) = ∅
    rw [h.addrs]
    ext x
    simp
  · obtain he | ⟨he, -⟩ := Device.routes_deleteAddrs faults 0 r.addrs
      (r.device.deleteRoutes faults r.routes)
    · rw [he, hnone]
    · exact he

theorem Synced.cleanup (h : r.Synced) (hs : r.Settles ⟨none, faults⟩) :
    (r.cleanup faults).1.Synced ∧ ((r.cleanup faults).2 = true →
      (r.cleanup faults).1.device = {}) := by
  have hok : (decide (∀ rt ∈ r.routes, faults.delRoute rt = false) &&
      !anyFault faults.delAddr r.addrs.length) = true ↔
      (∀ rt ∈ r.routes, faults.delRoute rt = false) ∧
      ∀ k < r.addrs.length, faults.delAddr k = false := by
    rw [Bool.and_eq_true, decide_eq_true_eq, Bool.not_eq_true', anyFault_eq_false]
  rw [DarwinRouter.cleanup]
  dsimp only
  split_ifs with hnil
  · obtain ⟨hroutes, haddrs⟩ := hok.mp hnil
    have hdev := h.cleanup_device hroutes haddrs
    rw [hdev]
    exact ⟨⟨rfl, rfl, by simp⟩, fun _ => rfl⟩
  · obtain hfree | ⟨hroutes, haddrs⟩ := hs
    · exact absurd (hok.mpr hfree) hnil
    · dsimp only at hroutes haddrs
      have hdev : (r.device.deleteRoutes faults r.routes).deleteAddrs faults 0 r.addrs =
          r.device := by
        rw [Device.deleteAddrs_of_fault (by simpa using haddrs), Device.deleteRoutes,
          Finset.filter_false_of_mem fun rt hrt => by simp [hroutes rt hrt]]
        simp
      rw [hdev]
      exact ⟨h, fun hfalse => absurd hfalse hnil⟩

/-- A call that settles leaves a true belief, and where it returns nil the device is the desired
one. -/
theorem Synced.set (h : r.Synced) (hs : r.Settles call) :
    (r.set call).1.Synced ∧ ((r.set call).2 = true → (r.set call).1.device = desired call.cfg) := by
  obtain ⟨cfg, faults⟩ := call
  cases cfg with
  | none => exact h.cleanup hs
  | some cfg =>
    obtain ⟨hmasked, hcase⟩ := hs
    change (r.syncAddrsAndRoutes cfg faults).1.Synced ∧
      ((r.syncAddrsAndRoutes cfg faults).2 = true →
        (r.syncAddrsAndRoutes cfg faults).1.device = desired (some cfg))
    by_cases hnil : r.noFault cfg faults = true
    · have hdev := h.goesThrough hmasked (noFault_iff.mp hnil)
      refine ⟨?_, fun _ => hdev⟩
      have haddrs : (r.syncAddrsAndRoutes cfg faults).1.addrs = cfg.localAddrs := by
        simp [syncAddrsAndRoutes, hnil]
      have hroutes : (r.syncAddrsAndRoutes cfg faults).1.routes = newRoutes cfg := by
        simp [syncAddrsAndRoutes, hnil]
      refine ⟨?_, ?_, ?_⟩
      · rw [hdev, haddrs]
        rfl
      · rw [hdev, hroutes]
        rfl
      · rw [hroutes]
        exact fun rt hrt => hmasked rt (List.mem_toFinset.mp hrt)
    · have hdev := h.keeps hmasked (hcase.resolve_left fun hg => hnil (noFault_iff.mpr hg))
      have hsame : (r.syncAddrsAndRoutes cfg faults).1 = r := by
        have hrec : (r.syncAddrsAndRoutes cfg faults).1 =
            { r with device := (r.syncAddrsAndRoutes cfg faults).1.device } := by
          simp [syncAddrsAndRoutes, hnil]
        rw [hrec, hdev]
      rw [hsame]
      exact ⟨h, fun hok => absurd hok hnil⟩

/-- From a bare device, in a run whose calls all settle, every call that returns nil leaves the
device exactly as its config asks. -/
theorem set_reaches_desired {calls : List DarwinCall} (h : Along step Settles {} calls) {k : Nat}
    (hk : calls[k]? = some call) (hnil : ((stateAt step {} calls k).set call).2 = true) :
    ((stateAt step {} calls k).set call).1.device = desired call.cfg := by
  have hsynced : (stateAt step {} calls k).Synced :=
    along_history (P := fun _ r => r.Synced) ⟨rfl, rfl, by simp⟩ (fun _ _ hs ih => (ih.set hs).1)
      (calls.take k) (h.take k)
  exact (hsynced.set (h k call hk)).2 hnil

/-- A config with one address and two routes. -/
def twoRoutes (first second : Nat) : RouterConfig where
  localAddrs := [⟨false, 1, 32⟩]
  routes := [⟨false, first, 32⟩, ⟨false, second, 32⟩]

/-- The last address goes, the routes are dropped with it, and all is set up anew. -/
theorem set_reaches_desired_renumbered :
    (stateAt step {} [⟨some (twoRoutes 2 3), {}⟩,
      ⟨some { twoRoutes 2 4 with localAddrs := [⟨false, 9, 32⟩] },
        { dropsRoutes := fun _ => true }⟩] 2).device =
      desired (some { twoRoutes 2 4 with localAddrs := [⟨false, 9, 32⟩] }) := by
  have hsettles (r : DarwinRouter) (cfg : RouterConfig) (drops : Nat → Bool)
      (hmasked : ∀ rt ∈ cfg.tunnelRoutes, rt.masked = rt) :
      r.Settles ⟨some cfg, { dropsRoutes := drops }⟩ :=
    ⟨hmasked, .inl ⟨fun _ _ => rfl, fun _ _ => rfl, fun _ _ => rfl, fun _ _ => rfl⟩⟩
  exact set_reaches_desired (along_cons.mpr ⟨hsettles _ _ _ (by decide),
    along_cons.mpr ⟨hsettles _ _ _ (by decide), along_nil⟩⟩) (k := 1) rfl (by decide)

/-- Adding the second route fails, so that the first is forgotten, and the next call returns nil with
it still on the device. -/
theorem set_leaves_route :
    ((exec step {} [⟨some (twoRoutes 2 3), { addRoute := (· = ⟨false, 3, 32⟩) }⟩]).set
      ⟨some (twoRoutes 4 5), {}⟩).2 = true ∧
    ⟨false, 2, 32⟩ ∈ ((exec step {} [⟨some (twoRoutes 2 3),
      { addRoute := (· = ⟨false, 3, 32⟩) }⟩]).set ⟨some (twoRoutes 4 5), {}⟩).1.device.routes ∧
    ⟨false, 2, 32⟩ ∉ (desired (some (twoRoutes 4 5))).routes := by
  decide

end DarwinRouter

end Meshd.Engine

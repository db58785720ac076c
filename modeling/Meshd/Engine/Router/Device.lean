import Meshd.Framework.Reconcile

namespace Meshd.Engine

/-- `netip.Prefix`: an address of 32 or 128 bits and the length of its network part. -/
structure Prefix where
  is6 : Bool := false
  addr : Nat
  bits : Nat
deriving DecidableEq

/-- `Masked`: the address with its host bits cleared. -/
def Prefix.masked (p : Prefix) : Prefix :=
  let host := 2 ^ ((if p.is6 then 128 else 32) - p.bits)
  { p with addr := p.addr / host * host }

/-- The members of a `router.Config` that the routers read. -/
structure RouterConfig where
  localAddrs : List Prefix := []
  routes : List Prefix := []
  localRoutes : List Prefix := []

def tunnelRoutes (routes localRoutes : List Prefix) : List Prefix :=
  routes.filter (· ∉ localRoutes)

def RouterConfig.tunnelRoutes (cfg : RouterConfig) : List Prefix :=
  Engine.tunnelRoutes cfg.routes cfg.localRoutes

/-- The addresses and routes of the TUN device. -/
@[ext] structure Device where
  addrs : Finset Prefix := ∅
  routes : Finset Prefix := ∅

instance : DecidableEq Device := fun _ _ => decidable_of_iff _ Device.ext_iff.symm

/-- The device that a config asks for. -/
def desired : Option RouterConfig → Device
  | none => {}
  | some cfg => { addrs := cfg.localAddrs.toFinset, routes := cfg.tunnelRoutes.toFinset }

end Meshd.Engine

import Meshd.Control.AclSemantics
import Meshd.Control.MapNodes

namespace Meshd.Control

open Meshd.Framework

/-- The text of an address is read back as that address, and no address has the empty text. -/
structure Platform.ReadsAddresses (platform : Platform) : Prop where
  empty : platform.parseAddr "" = none
  allocated : ∀ {cidr did ip}, platform.allocateMeshIP cidr did = some ip →
    platform.parseAddr ip = some ip

/-- The DIDs a matcher stands for: its own, or the members of a group. -/
def matcherDIDs (acl : ACLPolicyData) (m : String) : Option (List String) :=
  match afterPrefix "group:" m with
  | some groupName => some ((acl.groups.lookup groupName).getD [])
  | none => (afterPrefix "did:" m).map fun _ => [m]

/-- A matcher for DIDs stands for their addresses, those of a group as well as a single one. -/
theorem resolveMatcher_dids {acl : ACLPolicyData} {didToIP : String → Option String} {m : String}
    {dids : List String} (h : matcherDIDs acl m = some dids) :
    resolveMatcher acl didToIP m = dids.filterMap didToIP := by
  unfold matcherDIDs at h
  unfold resolveMatcher
  cases hgroup : afterPrefix "group:" m with
  | some groupName =>
    rw [hgroup] at h
    obtain rfl := Option.some.inj h
    rfl
  | none =>
    rw [hgroup] at h
    obtain ⟨id, hid, rfl⟩ := Option.map_eq_some_iff.mp h
    rw [hid]
    cases hip : didToIP m <;> simp [hip]

section Address

variable {platform : Platform} {networkRecordID selfDID : String} {now : Time} {c : CachedState}

/-- The address the filter has for a node that is in the map as `a`. A record with a text that is
no address puts that text into the filter. -/
theorem nodeAddress_reads_iff (hp : platform.ReadsAddresses) {did : String} {p : Nat}
    (hlookup : c.nodes.lookup did = some p) {a : String}
    (ha : (mapNode platform networkRecordID now c did (c.record p)).meshIP = some a) :
    (∃ ip, nodeAddress platform c did = some ip ∧ platform.parseAddr ip = some a) ↔
      (c.record p).meshIP = "" ∨ (platform.parseAddr (c.record p).meshIP).isSome = true := by
  have hmap : platform.parseAddr (c.record p).meshIP = some a ∨
      platform.parseAddr (c.record p).meshIP = none ∧ ∃ config, c.network = some config ∧
        config.meshCIDR ≠ "" ∧ platform.allocateMeshIP config.meshCIDR did = some a :=
    applyFallbackMeshIP_eq_some.mp ha
  simp only [nodeAddress, didToIP, hlookup, Option.map_some]
  by_cases hempty : (c.record p).meshIP = ""
  · rw [hempty, hp.empty] at hmap
    obtain ⟨-, config, hnet, hcidr, halloc⟩ := hmap.resolve_left (by simp)
    have hread := hp.allocated halloc
    have hne : a ≠ "" := by
      intro he
      rw [he, hp.empty] at hread
      cases hread
    simp [hempty, hnet, hcidr, halloc, hne, hread]
  · -- The filter takes the text as it is, so it must be the text of the address in the map.
    cases hip : platform.parseAddr (c.record p).meshIP with
    | none => simp [hempty, hip]
    | some ip =>
      rw [hip] at hmap
      simpa [hempty, hip] using hmap

/-- When the filter and the map agree on where a node is: its record must have no address text, or
one that is an address. -/
theorem filter_address_iff (hp : platform.ReadsAddresses) {resp : MapResponse}
    (h : (buildMapResponse platform networkRecordID selfDID now c).1 = some resp)
    {node : Node} (hnode : node ∈ resp.node :: resp.peers) {a : String}
    (ha : node.meshIP = some a) :
    ∃ p, c.nodes.lookup node.did = some p ∧
      (∀ acl m dids, matcherDIDs acl m = some dids →
        resolveMatcher acl (nodeAddress platform c) m = dids.filterMap (nodeAddress platform c)) ∧
      ((∃ ip, nodeAddress platform c node.did = some ip ∧ platform.parseAddr ip = some a) ↔
        (c.record p).meshIP = "" ∨ (platform.parseAddr (c.record p).meshIP).isSome = true) := by
  obtain ⟨p, hlookup, hnode⟩ := exists_record_of_mem h hnode
  rw [hnode] at ha
  exact ⟨p, hlookup, fun acl m dids => resolveMatcher_dids, nodeAddress_reads_iff hp hlookup ha⟩

end Address

/-- IPv4 addresses, of which each node but Alice's gets the same one. -/
def officePlatform : Platform where
  parseAddr := fun text => (parseIPv4 text.toList).map fun _ => text
  parsePrefix := some
  hostPrefix := fun ip => ip ++ "/32"
  parseTime := fun _ => none
  allocateMeshIP := fun _ did => some (if did = "did:jwk:alice" then "10.200.0.2" else "10.200.0.7")
  deriveKey := some
  nodeIdentityForDID := fun _ did => (did.length, did)

theorem officePlatform_readsAddresses : officePlatform.ReadsAddresses where
  empty := by decide
  allocated := by
    intro cidr did ip h
    obtain rfl := Option.some.inj h
    by_cases halice : did = "did:jwk:alice"
    · rw [if_pos halice]
      decide
    · rw [if_neg halice]
      decide

/-- Alice's node, and one of Bob's whose record has the given address text. -/
def officeState (meshIP : String) : CachedState where
  network := some { name := "office", meshCIDR := "10.200.0.0/16" }
  nodes := AList.insert "did:jwk:alice" 0 (AList.insert "did:jwk:bob" 1 ∅)
  record := fun p => if p = 0 then { meshIP := "10.200.0.2" } else { meshIP }
  relays := []
  acl := none

theorem filter_address_allocated :
    let bob := mapNode officePlatform "office" 0 (officeState "") "did:jwk:bob" {}
    ∃ resp, (buildMapResponse officePlatform "office" "did:jwk:alice" 0 (officeState "")).1 =
        some resp ∧ bob ∈ resp.peers ∧ bob.meshIP = some "10.200.0.7" ∧
      ∃ ip, nodeAddress officePlatform (officeState "") bob.did = some ip ∧
        officePlatform.parseAddr ip = some "10.200.0.7" := by
  intro bob
  refine ⟨_, rfl, List.mem_singleton.mpr rfl, rfl, ?_⟩
  have hshown : bob ∈ [mapNode officePlatform "office" 0 (officeState "") "did:jwk:alice"
      { meshIP := "10.200.0.2" }, bob] := by simp
  obtain ⟨p, hlookup, -, hiff⟩ := @filter_address_iff officePlatform "office" "did:jwk:alice" 0
    (officeState "") officePlatform_readsAddresses _ rfl bob hshown "10.200.0.7" rfl
  obtain rfl : 1 = p := Option.some.inj hlookup
  exact hiff.mpr (.inl rfl)

/-- A record with the wildcard for an address. The map has the node under an allocated address, and
the filter puts every host in its place. -/
theorem filter_address_wildcard :
    officePlatform.ReadsAddresses ∧
    ∃ resp node, (buildMapResponse officePlatform "office" "did:jwk:alice" 0 (officeState "*")).1 =
        some resp ∧ node ∈ resp.peers ∧ node.did = "did:jwk:bob" ∧ node.meshIP = some "10.200.0.7" ∧
      ∀ acl, resolveMatcher acl (nodeAddress officePlatform (officeState "*")) node.did = ["*"] := by
  refine ⟨officePlatform_readsAddresses, _, _, rfl, List.mem_singleton.mpr rfl, rfl, rfl, ?_⟩
  intro acl
  rfl

end Meshd.Control

import Meshd.Control.AclSemantics

namespace Meshd.Control

open Meshd.Framework

/-- A port as it may be written down: a decimal number up to 65535, of any length. -/
structure PortNumeral (cs : List Char) (n : Nat) : Prop where
  decimal : Decimal cs
  value : decimalValue cs = n
  le : n ≤ 65535

/-- A port or a range of ports as it may be written down. -/
inductive PortSpec : List Char → Nat → Nat → Prop
  | port {cs n} : PortNumeral cs n → PortSpec cs n n
  | range {as bs first last} : PortNumeral as first → PortNumeral bs last → first ≤ last →
      PortSpec (as ++ '-' :: bs) first last

/-- The ports that a list of entries names; an absent list names all of them. -/
def PortsNamed (ports : List String) (port : Nat) : Prop :=
  ports = [] ∨ ∃ entry ∈ ports, ∃ first last,
    PortSpec entry.toList first last ∧ first ≤ port ∧ port ≤ last

/-- Some entry is one that `parsePortRange` reads. -/
def SomePortRead (ports : List String) : Prop :=
  ∃ entry ∈ ports, ∃ first last, PortEntry entry.toList first last

namespace FilterRule

def PermitsPort (rule : FilterRule) (port : Nat) : Prop :=
  ∃ np ∈ rule.dstPorts, np.ports.first ≤ port ∧ port ≤ np.ports.last

def PermitsProto (rule : FilterRule) (p : Protocol) : Prop :=
  rule.ipProto = [] ∨ p.number ∈ rule.ipProto

/-- The rule is for no port and no protocol that `r` does not name. -/
structure Confined (rule : FilterRule) (r : ACLRule) : Prop where
  ports : ∀ port, rule.PermitsPort port → PortsNamed r.dstPorts port
  proto : ∀ p, rule.PermitsProto p → ProtoMatches r.proto p

end FilterRule

theorem PortText.numeral {cs : List Char} {n : Nat} (h : PortText cs n) : PortNumeral cs n :=
  ⟨h.decimal, h.value, h.le⟩

theorem PortEntry.spec {cs : List Char} {first last : Nat} (h : PortEntry cs first last) :
    PortSpec cs first last := by
  cases h with
  | port hp => exact .port hp.numeral
  | range hf hl hle => exact .range hf.numeral hl.numeral hle

/-- An entry is made of digits and a dash. -/
theorem PortSpec.chars {cs : List Char} {first last : Nat} (h : PortSpec cs first last) :
    ∀ c ∈ cs, c.isDigit = true ∨ c = '-' := by
  cases h with
  | port hp => exact fun c hc => .inl (hp.decimal.2 c hc)
  | range hf hl _ =>
    intro c hc
    obtain hc | hc := List.mem_append.mp hc
    · exact .inl (hf.decimal.2 c hc)
    · obtain rfl | hc := List.mem_cons.mp hc
      · exact .inr rfl
      · exact .inl (hl.decimal.2 c hc)

theorem parsePortRanges_ne_nil {ports : List String} :
    parsePortRanges ports ≠ [] ↔ SomePortRead ports := by
  constructor
  · intro h
    obtain ⟨⟨first, last⟩, hpr⟩ := List.exists_mem_of_ne_nil _ h
    obtain ⟨entry, he, hp⟩ := List.mem_filterMap.mp hpr
    exact ⟨entry, he, first, last, parsePortRange_iff.mp hp⟩
  · rintro ⟨entry, he, first, last, hp⟩
    exact List.ne_nil_of_mem (List.mem_filterMap.mpr ⟨entry, he, parsePortRange_iff.mpr hp⟩)

/-- Every range that is read comes from an entry naming it. -/
theorem portsNamed_of_mem {ports : List String} {pr : PortRange} (h : pr ∈ parsePortRanges ports)
    {port : Nat} (hport : pr.first ≤ port ∧ port ≤ pr.last) : PortsNamed ports port := by
  obtain ⟨entry, he, hp⟩ := List.mem_filterMap.mp h
  exact .inr ⟨entry, he, pr.first, pr.last, (parsePortRange_iff.mp hp).spec, hport⟩

/-- Where no entry is read, a rule is for every port. -/
theorem dstPortRanges_confined {ports : List String} :
    (∀ port, (∃ pr ∈ dstPortRanges ports, pr.first ≤ port ∧ port ≤ pr.last) →
        PortsNamed ports port) ↔
      SomePortRead ports ∨ ∀ port ≤ 65535, PortsNamed ports port := by
  rw [← parsePortRanges_ne_nil]
  by_cases hnil : parsePortRanges ports = []
  · have hall : dstPortRanges ports = [allPorts] := if_pos hnil
    rw [hall]
    simp [allPorts, hnil]
  · have hread : dstPortRanges ports = parsePortRanges ports := if_neg hnil
    rw [hread]
    refine ⟨fun _ => .inl hnil, fun _ port hport => ?_⟩
    obtain ⟨pr, hpr, hin⟩ := hport
    exact portsNamed_of_mem hpr hin

/-- A protocol without a number is every protocol to the filter. -/
theorem protoToIPProto_confined {proto : String} :
    (∀ p : Protocol, protoToIPProto proto = [] ∨ p.number ∈ protoToIPProto proto →
        ProtoMatches proto p) ↔
      proto ∈ ["", "*", "tcp", "udp", "icmp"] := by
  refine ⟨fun h => ?_, fun hknown p => (protoToIPProto_iff hknown p).mp⟩
  by_contra hunknown
  have hne : proto ≠ "" ∧ proto ≠ "*" ∧ proto ≠ "tcp" ∧ proto ≠ "udp" ∧ proto ≠ "icmp" := by
    simpa using hunknown
  have hnil : protoToIPProto proto = [] := by simp [protoToIPProto, hne]
  have htcp := h .tcp (.inl hnil)
  simp [ProtoMatches, hne] at htcp

variable {acl : ACLPolicyData} {didToIP : String → Option String}

theorem filterRule_permits {r : ACLRule} {rule : FilterRule}
    (h : filterRule acl didToIP r = some rule) :
    (∀ port, rule.PermitsPort port ↔
      ∃ pr ∈ dstPortRanges r.dstPorts, pr.first ≤ port ∧ port ≤ pr.last) ∧
    rule.ipProto = protoToIPProto r.proto := by
  have hdst := (filterRule_isSome.mp (Option.isSome_of_eq_some h)).2.2
  simp only [filterRule] at h
  split_ifs at h
  obtain rfl := Option.some.inj h
  refine ⟨fun port => ?_, rfl⟩
  constructor
  · rintro ⟨np, hnp, hport⟩
    obtain ⟨ip, -, hnp⟩ := List.mem_flatMap.mp hnp
    obtain ⟨pr, hpr, rfl⟩ := List.mem_map.mp hnp
    exact ⟨pr, hpr, hport⟩
  · rintro ⟨pr, hpr, hport⟩
    obtain ⟨ip, hip⟩ := List.exists_mem_of_ne_nil _ hdst
    exact ⟨⟨ip, pr⟩, List.mem_flatMap.mpr ⟨ip, hip, List.mem_map.mpr ⟨pr, hpr, rfl⟩⟩, hport⟩

/-- When a filter rule keeps to the ports and protocols of the rule it is made from: some port
entry must be readable, unless the entries name every port, and the protocol must be known. -/
theorem filterRule_confined_iff {r : ACLRule} {rule : FilterRule}
    (h : filterRule acl didToIP r = some rule) :
    rule.Confined r ↔
      (SomePortRead r.dstPorts ∨ ∀ port ≤ 65535, PortsNamed r.dstPorts port) ∧
      r.proto ∈ ["", "*", "tcp", "udp", "icmp"] := by
  obtain ⟨hports, hproto⟩ := filterRule_permits h
  rw [← dstPortRanges_confined, ← protoToIPProto_confined, ← hproto]
  constructor
  · intro hc
    exact ⟨fun port hport => hc.ports port ((hports port).mpr hport), hc.proto⟩
  · rintro ⟨hp, hproto⟩
    exact ⟨fun port hport => hp port ((hports port).mp hport), hproto⟩

theorem filterRule_confined_iff_partlyRead :
    let r : ACLRule :=
      { action := "accept", src := ["*"], dst := ["*"], proto := "udp", dstPorts := ["dns", "53"] }
    ∃ rule, filterRule { rules := [r] } (fun _ => none) r = some rule ∧ rule.Confined r := by
  refine ⟨_, rfl, (filterRule_confined_iff rfl).mpr ⟨.inl ?_, by decide⟩⟩
  exact ⟨"53", by decide, 53, 53, parsePortRange_iff.mp (by decide)⟩

/-- A rule for the SSH port over TCP, both by names the translation does not know. It opens every
port and every protocol. -/
theorem filterRule_not_confined :
    let r : ACLRule :=
      { action := "accept", src := ["*"], dst := ["*"], proto := "TCP", dstPorts := ["ssh"] }
    ∃ rule ∈ buildFilterRules (some { defaultAction := "drop", rules := [r] }) (fun _ => none),
      rule.PermitsPort 3389 ∧ ¬ PortsNamed r.dstPorts 3389 ∧
      rule.PermitsProto .udp ∧ ¬ ProtoMatches r.proto .udp := by
  refine ⟨_, List.mem_singleton.mpr rfl, ?_, ?_, ?_, ?_⟩
  · exact ⟨⟨"*", allPorts⟩, by decide, by decide⟩
  · rintro (hnil | ⟨entry, he, first, last, hspec, -⟩)
    · cases hnil
    · obtain rfl := List.mem_singleton.mp he
      exact absurd (hspec.chars 's' (by decide)) (by decide)
  · exact .inl (by decide)
  · decide

end Meshd.Control

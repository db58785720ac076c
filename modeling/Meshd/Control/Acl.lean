import Meshd.Framework.Go
import Meshd.Framework.Decimal

namespace Meshd.Control

open Meshd.Framework

/-- One rule of an ACL policy. -/
structure ACLRule where
  action : String
  src : List String
  dst : List String
  proto : String := ""
  srcPorts : List String := []
  dstPorts : List String := []
deriving DecidableEq

/-- The payload of a `network/aclPolicy` record. -/
structure ACLPolicyData where
  defaultAction : String := ""
  groups : GoMap (List String) := ∅
  rules : List ACLRule
deriving DecidableEq

structure PortRange where
  first : Nat
  last : Nat
deriving DecidableEq

structure NetPortRange where
  ip : String
  ports : PortRange
deriving DecidableEq

/-- A rule of the packet filter. No protocol number means every protocol. -/
structure FilterRule where
  srcIPs : List String
  dstPorts : List NetPortRange
  ipProto : List Nat := []
deriving DecidableEq

def allPorts : PortRange := ⟨0, 65535⟩

def defaultFilterRules : List FilterRule := [{ srcIPs := ["*"], dstPorts := [⟨"*", allPorts⟩] }]

/-- The digit loop of `parsePort`. Five digits stay far below the `uint32` bound. -/
def parseDigits (n : Nat) : List Char → Option Nat
  | [] => some n
  | c :: cs => if c < '0' ∨ '9' < c then none else parseDigits (n * 10 + digitValue c) cs

/-- The length is counted in bytes; a character of more than one byte is no digit. -/
def parsePort (s : List Char) : Option Nat :=
  let length := (s.map Char.utf8Size).sum
  if length = 0 ∨ 5 < length then none
  else
    match parseDigits 0 s with
    | none => none
    | some n => if 65535 < n then none else some n

/-- A single port or a range; the first dash decides. -/
def parsePortRange (s : List Char) : Option PortRange :=
  match s.span (· ≠ '-') with
  | (port, []) => (parsePort port).map fun n => ⟨n, n⟩
  | (first, _ :: last) =>
    match parsePort first, parsePort last with
    | some first, some last => if first ≤ last then some ⟨first, last⟩ else none
    | _, _ => none

def parsePortRanges (ports : List String) : List PortRange :=
  ports.filterMap fun p => parsePortRange p.toList

/-- The destination ports of a rule: without a readable entry it is for every port. -/
def dstPortRanges (dstPorts : List String) : List PortRange :=
  let parsed := parsePortRanges dstPorts
  if parsed = [] then [allPorts] else parsed

/-- The numbers are those of TCP, UDP and the two ICMP versions. -/
def protoToIPProto (proto : String) : List Nat :=
  if proto = "tcp" then [6]
  else if proto = "udp" then [17]
  else if proto = "icmp" then [1, 58]
  else []

/-- What follows a proper prefix, as `len(m) > n && m[:n] == pre` asks for it. -/
def afterPrefix (pre m : String) : Option String :=
  match m.toList.drop pre.length with
  | [] => none
  | c :: cs => if m.toList.take pre.length = pre.toList then some (.ofList (c :: cs)) else none

section Resolve
variable (acl : ACLPolicyData) (didToIP : String → Option String)

/-- What one matcher other than the wildcard adds to the addresses. -/
def resolveMatcher (m : String) : List String :=
  match afterPrefix "group:" m with
  | some groupName => ((acl.groups.lookup groupName).getD []).filterMap didToIP
  | none =>
    match afterPrefix "did:" m with
    | some _ => (didToIP m).toList
    | none => [m]

/-- The loop over the matchers; the wildcard drops what was collected before it. -/
def resolveMatchersFrom (result : List String) : List String → List String
  | [] => result
  | m :: ms =>
    if m = "*" then ["*"] else resolveMatchersFrom (result ++ resolveMatcher acl didToIP m) ms

def resolveMatchers (matchers : List String) : List String :=
  resolveMatchersFrom acl didToIP [] matchers

/-- The filter rule of one accept rule, unless a side of it names no address. -/
def filterRule (r : ACLRule) : Option FilterRule :=
  if r.action ≠ "accept" then none
  else
    let srcIPs := resolveMatchers acl didToIP r.src
    let dstIPs := resolveMatchers acl didToIP r.dst
    if srcIPs = [] then none
    else if dstIPs = [] then none
    else
      some { srcIPs
             ipProto := protoToIPProto r.proto
             dstPorts := dstIPs.flatMap fun ip => (dstPortRanges r.dstPorts).map fun pr => ⟨ip, pr⟩ }

end Resolve

/-- The address the filter knows a node by: the one in its record, else the allocated one.
`nodes` gives the recorded address of each node, and `meshCIDR` is empty without a network. -/
def didToIP (allocateMeshIP : String → String → Option String) (meshCIDR : String)
    (nodes : String → Option String) (did : String) : Option String :=
  match nodes did with
  | none => none
  | some meshIP =>
    let ip := if meshIP = "" ∧ meshCIDR ≠ "" then (allocateMeshIP meshCIDR did).getD "" else meshIP
    if ip = "" then none else some ip

def buildFilterRules (acl : Option ACLPolicyData) (didToIP : String → Option String) :
    List FilterRule :=
  match acl with
  | none => defaultFilterRules
  | some acl =>
    let rules := acl.rules.filterMap (filterRule acl didToIP)
    if rules = [] ∧ acl.defaultAction = "accept" then defaultFilterRules else rules

end Meshd.Control

import Meshd.Control.Acl
import Mathlib.Data.List.TakeDrop
import Mathlib.Data.List.TakeWhile

namespace Meshd.Control

open Meshd.Framework

/-- The text of a port: at most five digits, at most 65535. -/
structure PortText (cs : List Char) (n : Nat) : Prop where
  decimal : Decimal cs
  length_le : cs.length ≤ 5
  value : decimalValue cs = n
  le : n ≤ 65535

/-- A port entry of a rule, with the first and the last port it stands for. -/
inductive PortEntry : List Char → Nat → Nat → Prop
  | port {cs n} : PortText cs n → PortEntry cs n n
  | range {as bs first last} : PortText as first → PortText bs last → first ≤ last →
      PortEntry (as ++ '-' :: bs) first last

theorem parseDigits_iff {cs : List Char} {n m : Nat} :
    parseDigits n cs = some m ↔
      (∀ c ∈ cs, c.isDigit = true) ∧ n * 10 ^ cs.length + decimalValue cs = m := by
  induction cs generalizing n with
  | nil => simp [parseDigits, decimalValue]
  | cons c cs ih =>
    rw [parseDigits]
    by_cases hc : c.isDigit = true
    · have hnot : ¬ (c < '0' ∨ '9' < c) := by
        have h := isDigit_iff.mp hc
        rintro (h' | h')
        · exact absurd h.1 (Char.not_le.mpr h')
        · exact absurd h.2 (Char.not_le.mpr h')
      have hshift : (n * 10 + digitValue c) * 10 ^ cs.length + decimalValue cs =
          n * 10 ^ (c :: cs).length + decimalValue (c :: cs) := by
        rw [← foldl_decimalValue, ← foldl_decimalValue, List.foldl_cons]
      rw [if_neg hnot, ih, hshift]
      simp [hc]
    · have hout : c < '0' ∨ '9' < c := by
        by_contra h
        rw [not_or, Char.not_lt, Char.not_lt] at h
        exact hc (isDigit_iff.mpr h)
      rw [if_pos hout]
      simp [hc]

/-- For digits the byte length is the number of characters. -/
theorem sum_utf8Size {cs : List Char} (h : ∀ c ∈ cs, c.isDigit = true) :
    (cs.map Char.utf8Size).sum = cs.length := by
  induction cs with
  | nil => rfl
  | cons c cs ih =>
    have hc : c ≤ '9' := (isDigit_iff.mp (h c (by simp))).2
    have hsize : c.utf8Size = 1 := by
      apply Char.utf8Size_eq_one_iff.mpr
      exact UInt32.le_trans hc (by decide)
    have htail := ih (fun d hd => h d (by simp [hd]))
    simp only [List.map_cons, List.sum_cons, List.length_cons, hsize, htail]
    omega

theorem parsePort_iff {cs : List Char} {n : Nat} : parsePort cs = some n ↔ PortText cs n := by
  simp only [parsePort]
  constructor
  · intro h
    split_ifs at h with hlen
    rw [not_or] at hlen
    cases hd : parseDigits 0 cs with
    | none =>
      rw [hd] at h
      cases h
    | some m =>
      rw [hd] at h
      dsimp only at h
      split_ifs at h with hm
      obtain rfl := Option.some.inj h
      obtain ⟨hdigits, hvalue⟩ := parseDigits_iff.mp hd
      rw [sum_utf8Size hdigits] at hlen
      refine ⟨⟨?_, hdigits⟩, by omega, by omega, by omega⟩
      intro heq
      subst heq
      exact hlen.1 rfl
  · intro h
    have hlen : 0 < cs.length := List.length_pos_iff.mpr h.decimal.1
    have hle := h.length_le
    have hd : parseDigits 0 cs = some n := parseDigits_iff.mpr ⟨h.decimal.2, by rw [h.value]; omega⟩
    rw [sum_utf8Size h.decimal.2, if_neg (by omega), hd]
    dsimp only
    rw [if_neg (not_lt.mpr h.le)]

theorem dash_not_mem {cs : List Char} {n : Nat} (h : PortText cs n) : ∀ c ∈ cs, c ≠ '-' := by
  intro c hc heq
  subst heq
  exact absurd (h.decimal.2 '-' hc) (by decide)

theorem span_no_dash {cs : List Char} (h : ∀ c ∈ cs, c ≠ '-') :
    cs.span (· ≠ '-') = (cs, []) := by
  have hall : ∀ c ∈ cs, decide (c ≠ '-') = true := fun c hc => decide_eq_true (h c hc)
  rw [List.span_eq_takeWhile_dropWhile, List.takeWhile_eq_self_iff.mpr hall,
    List.dropWhile_eq_nil_iff.mpr hall]

theorem span_dash {as bs : List Char} (h : ∀ c ∈ as, c ≠ '-') :
    (as ++ '-' :: bs).span (· ≠ '-') = (as, '-' :: bs) := by
  have hall : ∀ c ∈ as, decide (c ≠ '-') = true := fun c hc => decide_eq_true (h c hc)
  rw [List.span_eq_takeWhile_dropWhile, List.takeWhile_append_of_pos hall,
    List.dropWhile_append_of_pos hall]
  simp

theorem parsePortRange_iff {cs : List Char} {first last : Nat} :
    parsePortRange cs = some ⟨first, last⟩ ↔ PortEntry cs first last := by
  constructor
  · intro h
    have hcs : cs = cs.takeWhile (· ≠ '-') ++ cs.dropWhile (· ≠ '-') :=
      (List.takeWhile_append_dropWhile).symm
    rw [parsePortRange, List.span_eq_takeWhile_dropWhile] at h
    cases hrest : cs.dropWhile (· ≠ '-') with
    | nil =>
      rw [hrest, List.append_nil] at hcs
      rw [hrest, ← hcs] at h
      obtain ⟨n, hn, he⟩ := Option.map_eq_some_iff.mp h
      obtain ⟨rfl, rfl⟩ := PortRange.mk.inj he
      exact .port (parsePort_iff.mp hn)
    | cons c bs =>
      have hc : c = '-' := by
        have hhead := List.head?_dropWhile_not (· ≠ '-') cs
        rw [hrest] at hhead
        simpa using hhead
      rw [hrest] at hcs h
      dsimp only at h
      cases hf : parsePort (cs.takeWhile (· ≠ '-')) with
      | none =>
        rw [hf] at h
        cases h
      | some f =>
        cases hl : parsePort bs with
        | none =>
          rw [hf, hl] at h
          cases h
        | some l =>
          rw [hf, hl] at h
          dsimp only at h
          split_ifs at h with hle
          obtain ⟨rfl, rfl⟩ := PortRange.mk.inj (Option.some.inj h)
          rw [hcs, hc]
          exact .range (parsePort_iff.mp hf) (parsePort_iff.mp hl) hle
  · intro h
    cases h with
    | port hp =>
      rw [parsePortRange, span_no_dash (dash_not_mem hp)]
      simp [parsePort_iff.mpr hp]
    | range hf hl hle =>
      rw [parsePortRange, span_dash (dash_not_mem hf)]
      simp [parsePort_iff.mpr hf, parsePort_iff.mpr hl, hle]

/-- A port entry can be read off its text. -/
theorem exists_portEntry {cs : List Char} {P : Nat → Nat → Prop} :
    (∃ pr ∈ parsePortRange cs, P pr.first pr.last) ↔
      ∃ first last, PortEntry cs first last ∧ P first last := by
  constructor
  · intro h
    obtain ⟨⟨first, last⟩, hp, h⟩ := h
    exact ⟨first, last, parsePortRange_iff.mp hp, h⟩
  · intro h
    obtain ⟨first, last, hp, h⟩ := h
    exact ⟨⟨first, last⟩, parsePortRange_iff.mpr hp, h⟩

theorem afterPrefix_iff {pre m rest : String} :
    afterPrefix pre m = some rest ↔ m = pre ++ rest ∧ rest ≠ "" := by
  have hlen : pre.length = pre.toList.length := String.length_toList.symm
  simp only [afterPrefix, hlen]
  constructor
  · intro h
    cases hd : m.toList.drop pre.toList.length with
    | nil =>
      rw [hd] at h
      cases h
    | cons c cs =>
      rw [hd] at h
      dsimp only at h
      split_ifs at h with hp
      obtain rfl := Option.some.inj h
      refine ⟨?_, by simp⟩
      have hsplit := List.take_append_drop pre.toList.length m.toList
      rw [hp, hd] at hsplit
      apply String.toList_inj.mp
      rw [String.toList_append, String.toList_ofList, hsplit]
  · intro h
    obtain ⟨rfl, hne⟩ := h
    rw [String.toList_append, List.drop_left, List.take_left]
    cases hr : rest.toList with
    | nil => exact absurd (String.toList_eq_nil_iff.mp hr) hne
    | cons c cs =>
      simp only [if_true, Option.some.injEq]
      rw [← hr, String.ofList_toList]

theorem group_ne_did (name id : String) : "group:" ++ name ≠ "did:" ++ id := by
  intro h
  have hl := congrArg String.toList h
  simp [String.toList_append] at hl

inductive Protocol
  | tcp
  | udp
  | icmpv4
  | icmpv6
deriving DecidableEq

def Protocol.number : Protocol → Nat
  | .tcp => 6
  | .udp => 17
  | .icmpv4 => 1
  | .icmpv6 => 58

/-- A packet as the filter sees it, over any kind of address. -/
structure Packet (Addr : Type*) where
  src : Addr
  dst : Addr
  proto : Protocol
  srcPort : Nat
  dstPort : Nat
  srcPort_le : srcPort ≤ 65535
  dstPort_le : dstPort ≤ 65535

/-- A rule its schema allows, with ports that can be read. -/
structure ACLRule.WellFormed (r : ACLRule) : Prop where
  action : r.action = "accept" ∨ r.action = "drop"
  proto : r.proto ∈ ["", "*", "tcp", "udp", "icmp"]
  srcPorts : ∀ entry ∈ r.srcPorts, ∃ first last, PortEntry entry.toList first last
  dstPorts : ∀ entry ∈ r.dstPorts, ∃ first last, PortEntry entry.toList first last

instance (cs : List Char) : Decidable (∃ first last, PortEntry cs first last) :=
  decidable_of_iff (∃ pr ∈ parsePortRange cs, True)
    (by simpa using exists_portEntry (P := fun _ _ => True))

instance (r : ACLRule) : Decidable r.WellFormed :=
  decidable_of_iff ((r.action = "accept" ∨ r.action = "drop") ∧ _ ∧ _ ∧ _)
    ⟨fun h => ⟨h.1, h.2.1, h.2.2.1, h.2.2.2⟩, fun h => ⟨h.1, h.2, h.3, h.4⟩⟩

structure ACLPolicyData.WellFormed (acl : ACLPolicyData) : Prop where
  defaultAction : acl.defaultAction ∈ ["", "accept", "drop"]
  rules : ∀ r ∈ acl.rules, r.WellFormed

instance (acl : ACLPolicyData) : Decidable acl.WellFormed :=
  decidable_of_iff (acl.defaultAction ∈ ["", "accept", "drop"] ∧ ∀ r ∈ acl.rules, r.WellFormed)
    ⟨fun h => ⟨h.1, h.2⟩, fun h => ⟨h.1, h.2⟩⟩

section Semantics
variable {Addr : Type*} (contains : String → Addr → Bool)

/-- An address entry of the filter: the wildcard, or the text of an address or a prefix, which
`contains` reads. -/
def EntryContains (entry : String) (addr : Addr) : Prop := entry = "*" ∨ contains entry addr = true

/-- A produced rule matches a packet by its addresses, its destination port and its protocol. The
engine asks this of TCP and UDP packets; of ICMP packets it compares the addresses only. -/
structure FilterRule.Matches (rule : FilterRule) (p : Packet Addr) : Prop where
  src : ∃ entry ∈ rule.srcIPs, EntryContains contains entry p.src
  dst : ∃ np ∈ rule.dstPorts, EntryContains contains np.ip p.dst ∧
    np.ports.first ≤ p.dstPort ∧ p.dstPort ≤ np.ports.last
  proto : rule.ipProto = [] ∨ p.proto.number ∈ rule.ipProto

instance (rule : FilterRule) (p : Packet Addr) : Decidable (rule.Matches contains p) :=
  decidable_of_iff ((∃ entry ∈ rule.srcIPs, entry = "*" ∨ contains entry p.src = true) ∧
      (∃ np ∈ rule.dstPorts, (np.ip = "*" ∨ contains np.ip p.dst = true) ∧
        np.ports.first ≤ p.dstPort ∧ p.dstPort ≤ np.ports.last) ∧
      (rule.ipProto = [] ∨ p.proto.number ∈ rule.ipProto))
    ⟨fun h => ⟨h.1, h.2.1, h.2.2⟩, fun h => ⟨h.1, h.2, h.3⟩⟩

def Permits (rules : List FilterRule) (p : Packet Addr) : Prop :=
  ∃ rule ∈ rules, rule.Matches contains p

instance (rules : List FilterRule) (p : Packet Addr) : Decidable (Permits contains rules p) :=
  inferInstanceAs (Decidable (∃ rule ∈ rules, _))

section Policy
variable (acl : ACLPolicyData) (didToIP : String → Option String)

/-- The addresses a matcher of a policy stands for. -/
inductive MatcherMatches : String → Addr → Prop
  | wildcard {addr} : MatcherMatches "*" addr
  | group {name did ip addr} : name ≠ "" → did ∈ (acl.groups.lookup name).getD [] →
      didToIP did = some ip → EntryContains contains ip addr →
      MatcherMatches ("group:" ++ name) addr
  | did {id ip addr} : id ≠ "" → didToIP ("did:" ++ id) = some ip →
      EntryContains contains ip addr → MatcherMatches ("did:" ++ id) addr
  | address {m addr} : (∀ name ≠ "", m ≠ "group:" ++ name) → (∀ id ≠ "", m ≠ "did:" ++ id) →
      contains m addr = true → MatcherMatches m addr

def ProtoMatches (proto : String) (p : Protocol) : Prop :=
  proto = "" ∨ proto = "*" ∨ proto = "tcp" ∧ p = .tcp ∨ proto = "udp" ∧ p = .udp ∨
  proto = "icmp" ∧ (p = .icmpv4 ∨ p = .icmpv6)

instance (proto : String) (p : Protocol) : Decidable (ProtoMatches proto p) :=
  inferInstanceAs (Decidable (_ ∨ _))

/-- The ports of a rule; an absent list stands for every port. -/
def PortsMatch (ports : List String) (port : Nat) : Prop :=
  ports = [] ∨ ∃ entry ∈ ports, ∃ first last,
    PortEntry entry.toList first last ∧ first ≤ port ∧ port ≤ last

/-- A rule of the policy matches the packet when its source port is left aside. -/
structure MatchesAsideSrcPort (r : ACLRule) (p : Packet Addr) : Prop where
  src : ∃ m ∈ r.src, MatcherMatches contains acl didToIP m p.src
  dst : ∃ m ∈ r.dst, MatcherMatches contains acl didToIP m p.dst
  proto : ProtoMatches r.proto p.proto
  dstPorts : PortsMatch r.dstPorts p.dstPort

def RuleMatches (r : ACLRule) (p : Packet Addr) : Prop :=
  MatchesAsideSrcPort contains acl didToIP r p ∧ PortsMatch r.srcPorts p.srcPort

variable {acl didToIP contains}

theorem resolveMatcher_iff {m : String} (hm : m ≠ "*") {addr : Addr} :
    (∃ entry ∈ resolveMatcher acl didToIP m, EntryContains contains entry addr) ↔
      MatcherMatches contains acl didToIP m addr := by
  simp only [resolveMatcher]
  cases hg : afterPrefix "group:" m with
  | some name =>
    obtain ⟨rfl, hname⟩ := afterPrefix_iff.mp hg
    simp only [List.mem_filterMap]
    constructor
    · intro h
      obtain ⟨ip, ⟨did, hdid, hip⟩, hc⟩ := h
      exact .group hname hdid hip hc
    · intro h
      generalize hgm : "group:" ++ name = gm at h
      cases h with
      | wildcard => exact absurd hgm hm
      | group _ hdid hip hc =>
        obtain rfl := String.append_right_inj _ |>.mp hgm
        exact ⟨_, ⟨_, hdid, hip⟩, hc⟩
      | did _ _ _ => exact absurd hgm (group_ne_did _ _)
      | address hng _ _ => exact absurd hgm.symm (hng name hname)
  | none =>
    have hng : ∀ name ≠ "", m ≠ "group:" ++ name := by
      intro name hname he
      rw [afterPrefix_iff.mpr ⟨he, hname⟩] at hg
      cases hg
    cases hd : afterPrefix "did:" m with
    | some id =>
      obtain ⟨rfl, hid⟩ := afterPrefix_iff.mp hd
      simp only [Option.mem_toList]
      constructor
      · intro h
        obtain ⟨ip, hip, hc⟩ := h
        exact .did hid hip hc
      · intro h
        generalize hdm : "did:" ++ id = dm at h
        cases h with
        | wildcard => exact absurd hdm hm
        | group _ _ _ _ => exact absurd hdm.symm (group_ne_did _ _)
        | did _ hip hc => exact ⟨_, hdm ▸ hip, hc⟩
        | address _ hnd _ => exact absurd hdm.symm (hnd id hid)
    | none =>
      have hnd : ∀ id ≠ "", m ≠ "did:" ++ id := by
        intro id hid he
        rw [afterPrefix_iff.mpr ⟨he, hid⟩] at hd
        cases hd
      simp only [List.mem_singleton, exists_eq_left, EntryContains, hm, false_or]
      constructor
      · exact .address hng hnd
      · intro h
        cases h with
        | wildcard => exact absurd rfl hm
        | group hname _ _ _ => exact absurd rfl (hng _ hname)
        | did hid _ _ => exact absurd rfl (hnd _ hid)
        | address _ _ hc => exact hc

theorem resolveMatchersFrom_iff {ms result : List String} {addr : Addr} :
    (∃ entry ∈ resolveMatchersFrom acl didToIP result ms, EntryContains contains entry addr) ↔
      (∃ entry ∈ result, EntryContains contains entry addr) ∨
        ∃ m ∈ ms, MatcherMatches contains acl didToIP m addr := by
  induction ms generalizing result with
  | nil => simp [resolveMatchersFrom]
  | cons m ms ih =>
    rw [resolveMatchersFrom]
    by_cases hm : m = "*"
    · rw [if_pos hm, hm]
      have hl : ∃ entry ∈ ["*"], EntryContains contains entry addr := ⟨"*", by simp, .inl rfl⟩
      have hr : ∃ m ∈ "*" :: ms, MatcherMatches contains acl didToIP m addr :=
        ⟨"*", by simp, .wildcard⟩
      exact ⟨fun _ => .inr hr, fun _ => hl⟩
    · rw [if_neg hm, ih]
      simp only [List.mem_append, or_and_right, exists_or, List.mem_cons, exists_eq_left]
      rw [resolveMatcher_iff hm, or_assoc]

theorem resolveMatchers_iff {ms : List String} {addr : Addr} :
    (∃ entry ∈ resolveMatchers acl didToIP ms, EntryContains contains entry addr) ↔
      ∃ m ∈ ms, MatcherMatches contains acl didToIP m addr := by
  rw [resolveMatchers, resolveMatchersFrom_iff]
  simp

theorem protoToIPProto_iff {proto : String} (h : proto ∈ ["", "*", "tcp", "udp", "icmp"])
    (p : Protocol) :
    protoToIPProto proto = [] ∨ p.number ∈ protoToIPProto proto ↔ ProtoMatches proto p := by
  simp only [List.mem_cons, List.not_mem_nil, or_false] at h
  rcases h with rfl | rfl | rfl | rfl | rfl
  · simp [protoToIPProto, ProtoMatches]
  · simp [protoToIPProto, ProtoMatches]
  · cases p <;> simp [protoToIPProto, ProtoMatches, Protocol.number]
  · cases p <;> simp [protoToIPProto, ProtoMatches, Protocol.number]
  · cases p <;> simp [protoToIPProto, ProtoMatches, Protocol.number]

theorem parsePortRanges_eq_nil {ports : List String}
    (h : ∀ entry ∈ ports, ∃ first last, PortEntry entry.toList first last) :
    parsePortRanges ports = [] ↔ ports = [] := by
  constructor
  · intro hnil
    rw [List.eq_nil_iff_forall_not_mem]
    intro entry he
    obtain ⟨first, last, hentry⟩ := h entry he
    have hnone := List.filterMap_eq_nil_iff.mp hnil entry he
    rw [parsePortRange_iff.mpr hentry] at hnone
    cases hnone
  · intro heq
    subst heq
    rfl

theorem dstPortRanges_iff {ports : List String} {n : Nat} (hn : n ≤ 65535)
    (h : ∀ entry ∈ ports, ∃ first last, PortEntry entry.toList first last) :
    (∃ pr ∈ dstPortRanges ports, pr.first ≤ n ∧ n ≤ pr.last) ↔ PortsMatch ports n := by
  simp only [dstPortRanges, PortsMatch]
  by_cases hnil : ports = []
  · rw [if_pos ((parsePortRanges_eq_nil h).mpr hnil)]
    simp [hnil, allPorts, hn]
  · rw [if_neg (fun he => hnil ((parsePortRanges_eq_nil h).mp he))]
    simp only [hnil, false_or, parsePortRanges, List.mem_filterMap]
    constructor
    · intro h
      obtain ⟨⟨first, last⟩, ⟨entry, he, hp⟩, hle⟩ := h
      exact ⟨entry, he, first, last, parsePortRange_iff.mp hp, hle⟩
    · intro h
      obtain ⟨entry, he, first, last, hp, hle⟩ := h
      exact ⟨⟨first, last⟩, ⟨entry, he, parsePortRange_iff.mpr hp⟩, hle⟩

instance (ports : List String) (port : Nat) : Decidable (PortsMatch ports port) :=
  decidable_of_iff (ports = [] ∨ ∃ entry ∈ ports, ∃ pr ∈ parsePortRange entry.toList,
      pr.first ≤ port ∧ port ≤ pr.last)
    (or_congr_right (exists_congr fun _ => and_congr_right fun _ =>
      exists_portEntry (P := fun first last => first ≤ port ∧ port ≤ last)))

instance (r : ACLRule) (p : Packet Addr) :
    Decidable (MatchesAsideSrcPort contains acl didToIP r p) :=
  decidable_of_iff ((∃ entry ∈ resolveMatchers acl didToIP r.src,
        entry = "*" ∨ contains entry p.src = true) ∧
      (∃ entry ∈ resolveMatchers acl didToIP r.dst, entry = "*" ∨ contains entry p.dst = true) ∧
      ProtoMatches r.proto p.proto ∧ PortsMatch r.dstPorts p.dstPort)
    ⟨fun h => ⟨resolveMatchers_iff.mp h.1, resolveMatchers_iff.mp h.2.1, h.2.2.1, h.2.2.2⟩,
      fun h => ⟨resolveMatchers_iff.mpr h.1, resolveMatchers_iff.mpr h.2, h.3, h.4⟩⟩

instance (r : ACLRule) (p : Packet Addr) : Decidable (RuleMatches contains acl didToIP r p) :=
  inferInstanceAs (Decidable (_ ∧ _))

variable (acl didToIP) in

/-- Both sides of the rule name an address. -/
def Resolves (r : ACLRule) : Prop :=
  resolveMatchers acl didToIP r.src ≠ [] ∧ resolveMatchers acl didToIP r.dst ≠ []

theorem MatchesAsideSrcPort.resolves {r : ACLRule} {p : Packet Addr}
    (h : MatchesAsideSrcPort contains acl didToIP r p) : Resolves acl didToIP r := by
  obtain ⟨_, hs, _⟩ := resolveMatchers_iff.mpr h.src
  obtain ⟨_, hd, _⟩ := resolveMatchers_iff.mpr h.dst
  exact ⟨List.ne_nil_of_mem hs, List.ne_nil_of_mem hd⟩

theorem filterRule_isSome {r : ACLRule} :
    (filterRule acl didToIP r).isSome = true ↔ r.action = "accept" ∧ Resolves acl didToIP r := by
  simp only [filterRule, Resolves]
  split_ifs with ha hs hd
  · simp [ha]
  · simp [hs]
  · simp [hd]
  · simpa using ⟨not_not.mp ha, hs, hd⟩

theorem filterRule_matches {r : ACLRule} {rule : FilterRule} {p : Packet Addr} (hwf : r.WellFormed)
    (h : filterRule acl didToIP r = some rule) :
    rule.Matches contains p ↔ MatchesAsideSrcPort contains acl didToIP r p := by
  have hsrc : (∃ entry ∈ resolveMatchers acl didToIP r.src, EntryContains contains entry p.src) ↔
      ∃ m ∈ r.src, MatcherMatches contains acl didToIP m p.src := resolveMatchers_iff
  have hdst : (∃ entry ∈ resolveMatchers acl didToIP r.dst, EntryContains contains entry p.dst) ↔
      ∃ m ∈ r.dst, MatcherMatches contains acl didToIP m p.dst := resolveMatchers_iff
  have hports := dstPortRanges_iff p.dstPort_le hwf.dstPorts
  have hproto := protoToIPProto_iff hwf.proto p.proto
  simp only [filterRule] at h
  split_ifs at h
  obtain rfl := Option.some.inj h
  constructor
  · intro hm
    obtain ⟨np, hnp, hip, hport⟩ := hm.dst
    obtain ⟨ip, hin, hnp⟩ := List.mem_flatMap.mp hnp
    obtain ⟨pr, hpr, rfl⟩ := List.mem_map.mp hnp
    exact ⟨hsrc.mp hm.src, hdst.mp ⟨ip, hin, hip⟩, hproto.mp hm.proto, hports.mp ⟨pr, hpr, hport⟩⟩
  · intro hm
    obtain ⟨ip, hin, hip⟩ := hdst.mpr hm.dst
    obtain ⟨pr, hpr, hport⟩ := hports.mpr hm.dstPorts
    refine ⟨hsrc.mpr hm.src, ⟨⟨ip, pr⟩, ?_, hip, hport⟩, hproto.mpr hm.proto⟩
    exact List.mem_flatMap.mpr ⟨ip, hin, List.mem_map.mpr ⟨pr, hpr, rfl⟩⟩

theorem permits_default (p : Packet Addr) : Permits contains defaultFilterRules p := by
  refine ⟨_, List.mem_singleton.mpr rfl, ⟨"*", by simp, .inl rfl⟩, ?_, .inl rfl⟩
  exact ⟨⟨"*", allPorts⟩, by simp, .inl rfl, Nat.zero_le _, p.dstPort_le⟩

/-- What the filter permits: what some accept rule matches in all but the source port, and
everything where the default is to accept and no accept rule names addresses. -/
theorem permits_iff (hwf : acl.WellFormed) (p : Packet Addr) :
    Permits contains (buildFilterRules (some acl) didToIP) p ↔
      (∃ r ∈ acl.rules, r.action = "accept" ∧ MatchesAsideSrcPort contains acl didToIP r p) ∨
      acl.defaultAction = "accept" ∧
        ∀ r ∈ acl.rules, r.action = "accept" → ¬ Resolves acl didToIP r := by
  have hnil : acl.rules.filterMap (filterRule acl didToIP) = [] ↔
      ∀ r ∈ acl.rules, r.action = "accept" → ¬ Resolves acl didToIP r := by
    rw [List.filterMap_eq_nil_iff]
    refine forall₂_congr fun r _ => ?_
    rw [← Option.not_isSome_iff_eq_none, filterRule_isSome, not_and]
  have hrules : Permits contains (acl.rules.filterMap (filterRule acl didToIP)) p ↔
      ∃ r ∈ acl.rules, r.action = "accept" ∧ MatchesAsideSrcPort contains acl didToIP r p := by
    constructor
    · intro h
      obtain ⟨rule, hrule, hm⟩ := h
      obtain ⟨r, hr, hf⟩ := List.mem_filterMap.mp hrule
      have ha := (filterRule_isSome.mp (Option.isSome_of_eq_some hf)).1
      exact ⟨r, hr, ha, (filterRule_matches (hwf.rules r hr) hf).mp hm⟩
    · intro h
      obtain ⟨r, hr, ha, hm⟩ := h
      obtain ⟨rule, hf⟩ := Option.isSome_iff_exists.mp (filterRule_isSome.mpr ⟨ha, hm.resolves⟩)
      exact ⟨rule, List.mem_filterMap.mpr ⟨r, hr, hf⟩,
        (filterRule_matches (hwf.rules r hr) hf).mpr hm⟩
  simp only [buildFilterRules]
  split_ifs with hdefault
  · exact ⟨fun _ => .inr ⟨hdefault.2, hnil.mp hdefault.1⟩, fun _ => permits_default p⟩
  · rw [hrules]
    refine ⟨.inl, ?_⟩
    rintro (h | ⟨ha, hn⟩)
    · exact h
    · exact absurd ⟨hnil.mpr hn, ha⟩ hdefault

variable (contains acl didToIP) in

/-- The reading of a policy in which drop rules, source ports and the default have their say on
every packet. -/
structure FullSemantics (p : Packet Addr) : Prop where
  default_denies : acl.defaultAction = "drop" ∨ acl.defaultAction = "" →
    (∀ r ∈ acl.rules, r.action = "accept" → ¬ RuleMatches contains acl didToIP r p) →
    ¬ Permits contains (buildFilterRules (some acl) didToIP) p
  drop_denies : (∃ r ∈ acl.rules, r.action = "drop" ∧ RuleMatches contains acl didToIP r p) →
    (∀ r ∈ acl.rules, r.action = "accept" → ¬ RuleMatches contains acl didToIP r p) →
    ¬ Permits contains (buildFilterRules (some acl) didToIP) p
  default_decides : (∀ r ∈ acl.rules, ¬ RuleMatches contains acl didToIP r p) →
    (Permits contains (buildFilterRules (some acl) didToIP) p ↔ acl.defaultAction = "accept")
  accept_permits : (∃ r ∈ acl.rules, r.action = "accept" ∧ RuleMatches contains acl didToIP r p) →
    (∀ r ∈ acl.rules, r.action = "drop" → ¬ RuleMatches contains acl didToIP r p) →
    Permits contains (buildFilterRules (some acl) didToIP) p

end Policy

section Nodes
variable (acl : ACLPolicyData) (allocateMeshIP : String → String → Option String)
  (meshCIDR : String) (nodes : String → Option String)

/-- The policy a filter enforces. The default accepts only where no accept rule names addresses,
and a drop rule denies no more than the absence of an accept rule does. -/
theorem buildFilterRules_semantics (hwf : acl.WellFormed) (p : Packet Addr) :
    let didToIP := didToIP allocateMeshIP meshCIDR nodes
    let permitted := Permits contains (buildFilterRules (some acl) didToIP) p
    let noAccept := ∀ r ∈ acl.rules, r.action = "accept" →
      ¬ MatchesAsideSrcPort contains acl didToIP r p
    (acl.defaultAction = "drop" ∨ acl.defaultAction = "" → noAccept → ¬ permitted) ∧
    ((∃ r ∈ acl.rules, r.action = "drop" ∧ RuleMatches contains acl didToIP r p) → noAccept →
      (acl.defaultAction = "drop" ∨ acl.defaultAction = "" ∨
        ∃ r ∈ acl.rules, r.action = "accept" ∧ Resolves acl didToIP r) → ¬ permitted) ∧
    ((∀ r ∈ acl.rules, ¬ RuleMatches contains acl didToIP r p) → noAccept →
      (permitted ↔ acl.defaultAction = "accept" ∧
        ∀ r ∈ acl.rules, r.action = "accept" → ¬ Resolves acl didToIP r)) ∧
    ((∃ r ∈ acl.rules, r.action = "accept" ∧ RuleMatches contains acl didToIP r p) →
      (∀ r ∈ acl.rules, r.action = "drop" → ¬ RuleMatches contains acl didToIP r p) →
      permitted) := by
  intro didToIP permitted noAccept
  have hpermits : permitted ↔ _ := permits_iff hwf p
  have hdenied (hno : noAccept) (hd : acl.defaultAction = "accept" →
      ∃ r ∈ acl.rules, r.action = "accept" ∧ Resolves acl didToIP r) : ¬ permitted := by
    rw [hpermits]
    rintro (⟨r, hr, ha, hm⟩ | ⟨ha, hn⟩)
    · exact hno r hr ha hm
    · obtain ⟨r, hr, hact, hres⟩ := hd ha
      exact hn r hr hact hres
  have hdrop (hd : acl.defaultAction = "drop" ∨ acl.defaultAction = "") :
      acl.defaultAction ≠ "accept" := by
    intro ha
    rw [ha] at hd
    simp at hd
  refine ⟨?_, ?_, ?_, ?_⟩
  · intro hd hno
    exact hdenied hno (fun ha => absurd ha (hdrop hd))
  · rintro - hno (hd | hd | hres)
    · exact hdenied hno (fun ha => absurd ha (hdrop (.inl hd)))
    · exact hdenied hno (fun ha => absurd ha (hdrop (.inr hd)))
    · exact hdenied hno (fun _ => hres)
  · intro _ hno
    rw [hpermits]
    refine ⟨?_, .inr⟩
    rintro (⟨r, hr, ha, hm⟩ | h)
    · exact absurd hm (hno r hr ha)
    · exact h
  · rintro ⟨r, hr, ha, hm⟩ -
    exact hpermits.mpr (.inl ⟨r, hr, ha, hm.1⟩)

end Nodes

end Semantics

def parseOctet (cs : List Char) : Option Nat :=
  if Decimal cs ∧ cs.length ≤ 3 ∧ (cs.head? ≠ some '0' ∨ cs = ['0']) ∧ decimalValue cs ≤ 255 then
    some (decimalValue cs)
  else none

def parseIPv4 (cs : List Char) : Option Nat :=
  match (cs.splitOn '.').mapM parseOctet with
  | some [a, b, c, d] => some (((a * 256 + b) * 256 + c) * 256 + d)
  | _ => none

/-- IPv4 addresses and prefixes. -/
def containsIPv4 (entry : String) (addr : Nat) : Bool :=
  match entry.toList.span (· ≠ '/') with
  | (ip, []) => parseIPv4 ip == some addr
  | (ip, _ :: bits) =>
    match parseIPv4 ip with
    | some base =>
      decide (Decimal bits ∧ decimalValue bits ≤ 32) &&
        base >>> (32 - decimalValue bits) == addr >>> (32 - decimalValue bits)
    | none => false

/-- Port 22 of the office network for the administrators, and nothing else. -/
def sshPolicy : ACLPolicyData where
  defaultAction := "drop"
  groups := AList.insert "admins" ["did:jwk:alice"] ∅
  rules := [{ action := "accept", src := ["group:admins"], dst := ["10.200.0.0/16"],
              proto := "tcp", dstPorts := ["22"] }]

/-- Where the nodes of the office are. -/
def officeNodes (did : String) : Option String :=
  if did = "did:jwk:alice" then some "10.200.0.2" else none

/-- A TCP packet between hosts of the office. -/
def officePacket (src dst srcPort dstPort : Fin 65536) : Packet Nat where
  src := (parseIPv4 "10.200.0.0".toList).getD 0 + src
  dst := (parseIPv4 "10.200.0.0".toList).getD 0 + dst
  proto := .tcp
  srcPort := srcPort
  dstPort := dstPort
  srcPort_le := Nat.le_of_lt_succ srcPort.isLt
  dstPort_le := Nat.le_of_lt_succ dstPort.isLt

theorem sshPolicy_permits :
    sshPolicy.WellFormed ∧ Permits containsIPv4
      (buildFilterRules (some sshPolicy) (didToIP (fun _ _ => none) "" officeNodes))
      (officePacket 2 9 40000 22) := by
  have hwf : sshPolicy.WellFormed := by decide
  have hpermits := (buildFilterRules_semantics containsIPv4 sshPolicy (fun _ _ => none) ""
    officeNodes hwf (officePacket 2 9 40000 22)).2.2.2
  exact ⟨hwf, hpermits (by decide) (by decide)⟩

/-- Policies on which the filter is not the full reading of them. A drop rule alone leaves an
accepting default open to the packets it names. One accept rule closes an accepting default for
all others. The source ports of an accept rule are not looked at. -/
theorem filter_not_full :
    let noSSH : ACLPolicyData :=
      { defaultAction := "accept",
        rules := [{ action := "drop", src := ["*"], dst := ["*"], proto := "tcp",
                    dstPorts := ["22"] }] }
    let fromAlice : ACLPolicyData :=
      { defaultAction := "accept",
        rules := [{ action := "accept", src := ["did:jwk:alice"], dst := ["*"] }] }
    let highPorts : ACLPolicyData :=
      { defaultAction := "drop",
        rules := [{ action := "accept", src := ["*"], dst := ["*"],
                    srcPorts := ["1024-65535"] }] }
    let didToIP := didToIP (fun _ _ => none) "" officeNodes
    (noSSH.WellFormed ∧
      ¬ FullSemantics containsIPv4 noSSH didToIP (officePacket 2 9 40000 22)) ∧
    (fromAlice.WellFormed ∧
      ¬ FullSemantics containsIPv4 fromAlice didToIP (officePacket 3 9 40000 80)) ∧
    (highPorts.WellFormed ∧
      ¬ FullSemantics containsIPv4 highPorts didToIP (officePacket 2 9 80 80)) := by
  refine ⟨⟨by decide, ?_⟩, ⟨by decide, ?_⟩, by decide, ?_⟩
  · intro h
    exact h.drop_denies (by decide) (by decide) (by decide)
  · intro h
    exact absurd ((h.default_decides (by decide)).mpr rfl) (by decide)
  · intro h
    exact h.default_denies (.inl rfl) (by decide) (by decide)

end Meshd.Control

import Meshd.Framework.JavaScript
import Meshd.Framework.Netip
import Mathlib.Tactic.Ring

namespace Meshd.Mesh

open Meshd.Framework

/-! The address of a node, which the CLI and the dashboard both derive from its DID. -/

/-! ### The CLI -/

section Cli
variable (quote : String → String) (parseIPv6 : String → Except String Bool)
  (sha256 : Bytes → Buffer 32)

/-- `x % y` of an unsigned type; `none` is the panic on a division by zero. -/
def checkedMod (x y : BitVec 32) : Option (BitVec 32) := if y = 0 then none else some (x % y)

/-- `binary.BigEndian.Uint32(hash[:4])`. -/
def hashUint32 (hash : Buffer 32) : BitVec 32 := BitVec.ofNat 32 (ofBigEndian (hash.val.take 4))

def allocateMeshIP (cidr didURI : String) : Option (Except String (BitVec 32)) :=
  match Netip.parsePrefix quote parseIPv6 cidr with
  | .error e => some (.error ("parsing CIDR " ++ quote cidr ++ ": " ++ e))
  | .ok pfx =>
    match pfx.masked with
    | ⟨.v6 _, _⟩ => some (.error ("only IPv4 CIDRs are supported, got " ++ cidr))
    | ⟨.v4 baseInt, bits⟩ =>
      let hostBits := 32 - bits
      if hostBits < 2 then
        some (.error ("CIDR " ++ cidr ++ " has too few host bits (" ++ toString hostBits ++ ")"))
      else
        -- the shift of a uint32 by all of its bits leaves nothing
        let maxHosts := 1#32 <<< hostBits - 3#32
        (checkedMod (hashUint32 (sha256 (JsonText.utf8 didURI))) maxHosts).map fun hostOffset =>
          let hostNum := hostOffset + 2#32
          .ok (baseInt + hostNum)

end Cli

/-! ### The dashboard -/

section Dashboard
open JavaScript
variable (sha256 : Bytes → Buffer 32)

def dot : UInt16 := 46

def slash : UInt16 := 47

/-- The number of four bytes, the first of which is shifted into the sign bit and back. -/
def fromBytes (a b c d : Int) : Int := ushr (ushr (shl a 24) 0 + shl b 16 + shl c 8 + d) 0

def ipv4ToInt (ip : Text) : Except Text Int :=
  match (ip.splitOn dot).map parseInt with
  | [some a, some b, some c, some d] =>
    if [a, b, c, d].any fun part => part < 0 ∨ part > 255 then
      .error (ofString "Invalid IPv4 address: " ++ ip)
    else .ok (fromBytes a b c d)
  | _ => .error (ofString "Invalid IPv4 address: " ++ ip)

def intToIpv4 (value : Int) : Text :=
  [dot].intercalate
    ([band (ushr value 24) 0xff, band (ushr value 16) 0xff, band (ushr value 8) 0xff,
      band value 0xff].map fun n => ofString (toString n))

def networkMask (bits : Nat) : Int := if bits = 0 then 0 else ushr (shl 0xffffffff (32 - bits)) 0

/-- `(address & mask) >>> 0`. -/
def maskedBase (address : Int) (bits : Nat) : Int := ushr (band address (networkMask bits)) 0

def normalizeMeshCIDR (cidr : Text) : Except Text Text :=
  match cidr.splitOn slash with
  | [ip, bitsText] =>
    if ip = [] ∨ bitsText = [] ∨ ¬ bitsText.all isDigit then
      .error (ofString "Invalid mesh CIDR: " ++ cidr)
    else do
      let address ← ipv4ToInt ip
      match parseInt bitsText with
      | none =>
        .error (ofString "Mesh CIDR " ++ cidr ++
          ofString " must be an IPv4 CIDR with at least 2 host bits.")
      | some bits =>
        if bits < 0 ∨ bits > 30 then
          .error (ofString "Mesh CIDR " ++ cidr ++
            ofString " must be an IPv4 CIDR with at least 2 host bits.")
        else .ok (intToIpv4 (maskedBase address bits.toNat) ++ slash :: ofString (toString bits))
  | _ => .error (ofString "Invalid mesh CIDR: " ++ cidr)

/-- `x % y`; `none` is NaN. -/
def remainder (x y : Int) : Option Int := if y = 0 then none else some (x.tmod y)

/-- `value >>> 0`, where NaN becomes zero. -/
def toUint32 (value : Option Int) : Int := ushr (value.getD 0) 0

def hashNumber (hash : Buffer 32) : Int :=
  let byte (i : Nat) : Int := ((hash.val.getD i 0).toNat : Int)
  fromBytes (byte 0) (byte 1) (byte 2) (byte 3)

def allocateMeshIp (cidr nodeDID : Text) : Except Text Text :=
  let parts := cidr.splitOn slash
  let ip := parts.headD []
  -- a missing length is `undefined`, which is no number
  match parts[1]?.bind parseInt with
  | none => .error (ofString "Invalid mesh CIDR: " ++ cidr)
  | some bits =>
    if ip = [] ∨ bits < 0 ∨ bits > 30 then .error (ofString "Invalid mesh CIDR: " ++ cidr)
    else
      let hostBits := 32 - bits.toNat
      if hostBits < 2 then
        .error (ofString "Mesh CIDR " ++ cidr ++ ofString " has too few host bits.")
      else do
        let baseInt := maskedBase (← ipv4ToInt ip) bits.toNat
        let hashPrefix := hashNumber (sha256 (textEncode nodeDID))
        let maxHosts : Int := 2 ^ hostBits - 3
        return intToIpv4 (toUint32 ((remainder hashPrefix maxHosts).map fun r => baseInt + r + 2))

end Dashboard

/-! ### Addresses as numbers -/

/-- The first address of a network. -/
def network (value bits : Nat) : Nat := value / 2 ^ (32 - bits) * 2 ^ (32 - bits)

/-- The host of a hash: neither the first two addresses of the network nor the last. -/
def meshAddress (value bits hash : Nat) : Nat :=
  network value bits + hash % (2 ^ (32 - bits) - 3) + 2

section Numbers
variable {value bits : Nat}

theorem four_le_hosts (hbits : bits ≤ 30) : 4 ≤ 2 ^ (32 - bits) :=
  Nat.pow_le_pow_right (by decide : 0 < 2) (by omega : 2 ≤ 32 - bits)

theorem network_add_le (hvalue : value < 2 ^ 32) (bits : Nat) :
    network value bits + 2 ^ (32 - bits) ≤ 2 ^ 32 := by
  have hquot : value / 2 ^ (32 - bits) < 2 ^ 32 / 2 ^ (32 - bits) :=
    Nat.div_lt_div_of_lt_of_dvd (Nat.pow_dvd_pow 2 (Nat.sub_le 32 bits)) hvalue
  have hmul := Nat.mul_le_mul_right (2 ^ (32 - bits)) hquot
  rw [Nat.div_mul_cancel (Nat.pow_dvd_pow 2 (Nat.sub_le 32 bits)), Nat.succ_mul] at hmul
  exact hmul

/-- The host number of an allocated address. -/
theorem host_lt (hbits : bits ≤ 30) (hash : Nat) :
    hash % (2 ^ (32 - bits) - 3) + 2 < 2 ^ (32 - bits) - 1 := by
  have hhosts := four_le_hosts hbits
  have hmod := Nat.mod_lt hash (by omega : 0 < 2 ^ (32 - bits) - 3)
  omega

theorem meshAddress_lt (hvalue : value < 2 ^ 32) (hbits : bits ≤ 30) (hash : Nat) :
    meshAddress value bits hash < 2 ^ 32 := by
  have hhost := host_lt hbits hash
  have hle := network_add_le hvalue bits
  rw [meshAddress]
  omega

end Numbers

/-- Clearing the low bits of a word. -/
theorem toNat_and_mask (x : BitVec 32) {k : Nat} :
    (x &&& BitVec.allOnes 32 <<< k).toNat = x.toNat / 2 ^ k * 2 ^ k := by
  have hshift : x &&& BitVec.allOnes 32 <<< k = (x >>> k) <<< k := by
    refine BitVec.eq_of_getLsbD_eq fun i hi => ?_
    rw [BitVec.getLsbD_and, BitVec.getLsbD_shiftLeft, BitVec.getLsbD_allOnes,
      BitVec.getLsbD_shiftLeft, BitVec.getLsbD_ushiftRight]
    by_cases hik : i < k
    · simp [hik]
    · have hback : k + (i - k) = i := by omega
      have hlt : i - k < 32 := by omega
      simp [hik, hi, hback, hlt]
  rw [hshift, BitVec.toNat_shiftLeft, BitVec.toNat_ushiftRight, Nat.shiftRight_eq_div_pow,
    Nat.shiftLeft_eq]
  exact Nat.mod_eq_of_lt (lt_of_le_of_lt (Nat.div_mul_le_self _ _) x.isLt)

/-- The first four bytes of a hash as a number. -/
def hashNat (hash : Buffer 32) : Nat :=
  let byte (i : Nat) := (hash.val.getD i 0).toNat
  ((byte 0 * 256 + byte 1) * 256 + byte 2) * 256 + byte 3

theorem hashUint32_eq (hash : Buffer 32) : hashUint32 hash = BitVec.ofNat 32 (hashNat hash) := by
  obtain ⟨bytes, hlength⟩ := hash
  obtain ⟨a, b, c, d, rest, rfl⟩ : ∃ a b c d rest, bytes = a :: b :: c :: d :: rest := by
    rcases bytes with _ | ⟨a, _ | ⟨b, _ | ⟨c, _ | ⟨d, rest⟩⟩⟩⟩
    · simp at hlength
    · simp at hlength
    · simp at hlength
    · simp at hlength
    · exact ⟨a, b, c, d, rest, rfl⟩
  simp [hashUint32, hashNat, ofBigEndian]

theorem hashNat_lt (hash : Buffer 32) : hashNat hash < 2 ^ 32 := by
  have hbyte : ∀ i, (hash.val.getD i 0).toNat < 256 := fun i => UInt8.toNat_lt _
  have h0 := hbyte 0
  have h1 := hbyte 1
  have h2 := hbyte 2
  have h3 := hbyte 3
  simp only [hashNat]
  omega

/-! ### What the CLI allocates -/

section Cli
variable {quote : String → String} {parseIPv6 : String → Except String Bool}

/-- The number of hosts, also where the shift has wrapped around to zero. -/
theorem toNat_maxHosts : ∀ k < 33, 2 ≤ k → (1#32 <<< k - 3#32).toNat = 2 ^ k - 3 := by decide

theorem toNat_base (value : BitVec 32) (bits : Nat) :
    (value &&& BitVec.allOnes 32 <<< (32 - bits)).toNat = network value.toNat bits := by
  rw [toNat_and_mask, network]

theorem allocateMeshIP_v4 {cidr : String} {value : BitVec 32} {bits : Nat}
    (hparse : Netip.parsePrefix quote parseIPv6 cidr = .ok ⟨.v4 value, bits⟩) (hbits : bits ≤ 30)
    (sha256 : Bytes → Buffer 32) (didURI : String) :
    ∃ a, allocateMeshIP quote parseIPv6 sha256 cidr didURI = some (.ok a) ∧
      a.toNat = meshAddress value.toNat bits (hashNat (sha256 (JsonText.utf8 didURI))) := by
  set hash := sha256 (JsonText.utf8 didURI) with hhash
  have hmax := toNat_maxHosts (32 - bits) (by omega) (by omega)
  have hhosts := four_le_hosts hbits
  have hne : 1#32 <<< (32 - bits) - 3#32 ≠ 0 := by
    intro hzero
    have hnone : (0 : BitVec 32).toNat = 0 := rfl
    rw [hzero] at hmax
    omega
  refine ⟨(value &&& BitVec.allOnes 32 <<< (32 - bits)) +
    (hashUint32 hash % (1#32 <<< (32 - bits) - 3#32) + 2#32), ?_, ?_⟩
  · simp only [allocateMeshIP, hparse, Netip.Prefix.masked, checkedMod, if_neg hne, ← hhash,
      Option.map_some]
    rw [if_neg (by omega)]
  · -- nothing wraps around: the sum stays below the end of the network
    have hlt := meshAddress_lt value.isLt hbits (hashNat hash)
    have hoffset : (hashUint32 hash % (1#32 <<< (32 - bits) - 3#32)).toNat =
        hashNat hash % (2 ^ (32 - bits) - 3) := by
      rw [BitVec.toNat_umod, hmax, hashUint32_eq, BitVec.toNat_ofNat,
        Nat.mod_eq_of_lt (hashNat_lt hash)]
    rw [meshAddress] at hlt ⊢
    rw [BitVec.toNat_add, BitVec.toNat_add, hoffset, toNat_base]
    simp only [BitVec.toNat_ofNat]
    omega

/-- The CLI refuses a CIDR or allocates the host of the hash; it does not divide by zero. -/
theorem allocateMeshIP_cases (quote : String → String) (parseIPv6 : String → Except String Bool)
    (sha256 : Bytes → Buffer 32) (cidr didURI : String) :
    (∃ e, allocateMeshIP quote parseIPv6 sha256 cidr didURI = some (.error e)) ∨
    ∃ value bits a, Netip.parsePrefix quote parseIPv6 cidr = .ok ⟨.v4 value, bits⟩ ∧ bits ≤ 30 ∧
      allocateMeshIP quote parseIPv6 sha256 cidr didURI = some (.ok a) ∧
      a.toNat = meshAddress value.toNat bits (hashNat (sha256 (JsonText.utf8 didURI))) := by
  cases hparse : Netip.parsePrefix quote parseIPv6 cidr with
  | error e => exact .inl ⟨_, by rw [allocateMeshIP, hparse]⟩
  | ok pfx =>
    obtain ⟨addr, bits⟩ := pfx
    cases addr with
    | v6 zone => exact .inl ⟨_, by rw [allocateMeshIP, hparse]; rfl⟩
    | v4 value =>
      by_cases hbits : bits ≤ 30
      · obtain ⟨a, ha, haddr⟩ := allocateMeshIP_v4 hparse hbits sha256 didURI
        exact .inr ⟨value, bits, a, rfl, hbits, ha, haddr⟩
      · refine .inl ⟨"CIDR " ++ cidr ++ " has too few host bits (" ++ toString (32 - bits) ++ ")", ?_⟩
        simp only [allocateMeshIP, hparse, Netip.Prefix.masked]
        rw [if_pos (by omega)]

end Cli

/-! ### What the dashboard allocates -/

section Dashboard
open JavaScript
variable {sha256 : Bytes → Buffer 32}

theorem fromBytes_natCast {a b c d : Nat} (ha : a < 256) (hb : b < 256) (hc : c < 256)
    (hd : d < 256) : fromBytes a b c d = ((((a * 256 + b) * 256 + c) * 256 + d : Nat) : Int) := by
  have hfirst : ushr (shl a 24) 0 = ((a * 2 ^ 24 : Nat) : Int) := by
    rw [ushr_zero, shl, word_toInt]
    exact congrArg Int.ofNat (toNat_word_shiftLeft (show a * 2 ^ 24 < 2 ^ 32 by omega))
  have hsum : ((a * 2 ^ 24 : Nat) : Int) + ((b * 2 ^ 16 : Nat) : Int) + ((c * 2 ^ 8 : Nat) : Int) + d =
      ((((a * 256 + b) * 256 + c) * 256 + d : Nat) : Int) := by
    push_cast
    ring
  rw [fromBytes, hfirst, shl_natCast (by omega) (by omega), shl_natCast (by omega) (by omega), hsum,
    ushr_natCast (by omega) 0 (by omega)]
  simp

theorem hashNumber_eq (hash : Buffer 32) : hashNumber hash = (hashNat hash : Int) :=
  fromBytes_natCast (UInt8.toNat_lt _) (UInt8.toNat_lt _) (UInt8.toNat_lt _) (UInt8.toNat_lt _)

theorem maskedBase_natCast {value bits : Nat} (hvalue : value < 2 ^ 32) (hbits : bits ≤ 32) :
    maskedBase value bits = (network value bits : Int) := by
  have hmask : word (networkMask bits) = BitVec.allOnes 32 <<< (32 - bits) := by
    rw [networkMask]
    split_ifs with hzero
    · subst hzero
      decide
    · rw [ushr_zero, word_toNat, shl, word_toInt, Nat.mod_eq_of_lt (by omega : 32 - bits < 32)]
      rfl
  rw [maskedBase, ushr_zero, band, word_toInt, hmask, word_natCast, toNat_base, BitVec.toNat_ofNat,
    Nat.mod_eq_of_lt hvalue]

/-- The text of an address. -/
def dotted (value : Nat) : Text :=
  [dot].intercalate ((Netip.octets value).map fun n => ofString (toString n))

theorem band_byte {n : Nat} (h : n < 2 ^ 32) : band (n : Int) 0xff = ((n % 256 : Nat) : Int) := by
  have hnat : (word (n : Int) &&& word 0xff).toNat = n % 256 := by
    have hbyte : (word 0xff).toNat = 2 ^ 8 - 1 := rfl
    rw [BitVec.toNat_and, hbyte, word_natCast, BitVec.toNat_ofNat, Nat.mod_eq_of_lt h,
      Nat.and_two_pow_sub_one_eq_mod]
  rw [band, BitVec.toInt_eq_toNat_of_lt (by rw [hnat]; omega), hnat]

theorem intToIpv4_natCast {value : Nat} (h : value < 2 ^ 32) : intToIpv4 value = dotted value := by
  have hshift : ∀ k < 32, band (ushr (value : Int) k) 0xff = ((value / 2 ^ k % 256 : Nat) : Int) := by
    intro k hk
    rw [ushr_natCast h k hk, band_byte (lt_of_le_of_lt (Nat.div_le_self _ _) h)]
  rw [intToIpv4, dotted, hshift 24 (by omega), hshift 16 (by omega), hshift 8 (by omega), band_byte h]
  rfl

/-- The CIDR as the dashboard reads it: an address and a length, whatever follows each number. -/
def readMeshCIDR (cidr : Text) : Option (Int × Int) := do
  let parts := cidr.splitOn slash
  return (← (ipv4ToInt (parts.headD [])).toOption, ← parts[1]?.bind parseInt)

theorem ipv4ToInt_ok {ip : Text} {n : Int} (h : ipv4ToInt ip = .ok n) :
    ip ≠ [] ∧ ∃ value : Nat, n = value ∧ value < 2 ^ 32 := by
  constructor
  · rintro rfl
    cases h
  · rw [ipv4ToInt] at h
    split at h
    · next a b c d hparts =>
      rw [ite_error_eq_ok] at h
      obtain ⟨hrange, h⟩ := h
      simp only [List.any_cons, List.any_nil, Bool.or_false, Bool.or_eq_true, decide_eq_true_eq,
        not_or, not_lt] at hrange
      obtain ⟨ha, hb, hc, hd⟩ := hrange
      lift a to Nat using ha.1
      lift b to Nat using hb.1
      lift c to Nat using hc.1
      lift d to Nat using hd.1
      rw [fromBytes_natCast (by omega) (by omega) (by omega) (by omega)] at h
      exact ⟨_, (Except.ok.inj h).symm, by omega⟩
    · cases h

theorem allocated_text {value bits : Nat} (hvalue : value < 2 ^ 32) (hbits : bits ≤ 30)
    (hash : Buffer 32) :
    intToIpv4 (toUint32 ((remainder (hashNumber hash) (2 ^ (32 - bits) - 3)).map fun r =>
      maskedBase value bits + r + 2)) = dotted (meshAddress value bits (hashNat hash)) := by
  have hhosts := four_le_hosts hbits
  have hmax : (2 ^ (32 - bits) - 3 : Int) = ((2 ^ (32 - bits) - 3 : Nat) : Int) := by
    push_cast [(by omega : 3 ≤ 2 ^ (32 - bits))]
    rfl
  have hne : ((2 ^ (32 - bits) - 3 : Nat) : Int) ≠ 0 := by omega
  have hlt := meshAddress_lt hvalue hbits (hashNat hash)
  have hsum : maskedBase value bits +
      ((hashNat hash : Int).tmod ((2 ^ (32 - bits) - 3 : Nat) : Int)) + 2 =
        ((meshAddress value bits (hashNat hash) : Nat) : Int) := by
    rw [maskedBase_natCast hvalue (by omega), ← Int.ofNat_tmod, meshAddress]
    push_cast
    rfl
  rw [remainder, hashNumber_eq, hmax, if_neg hne, Option.map_some, hsum, toUint32, Option.getD_some,
    ushr_zero, word_natCast, BitVec.toNat_ofNat, Nat.mod_eq_of_lt hlt, intToIpv4_natCast hlt]

/-- What the dashboard allocates. -/
theorem allocateMeshIp_eq_ok {cidr nodeDID r : Text} :
    allocateMeshIp sha256 cidr nodeDID = .ok r ↔
      ∃ value bits : Nat, readMeshCIDR cidr = some (↑value, ↑bits) ∧ value < 2 ^ 32 ∧ bits ≤ 30 ∧
        r = dotted (meshAddress value bits (hashNat (sha256 (textEncode nodeDID)))) := by
  simp only [allocateMeshIp, readMeshCIDR]
  cases hlength : (cidr.splitOn slash)[1]?.bind parseInt with
  | none => simp
  | some n =>
    simp only [ite_error_eq_ok, not_or, not_lt]
    cases hip : ipv4ToInt ((cidr.splitOn slash).headD []) with
    | error e => simp [Except.toOption]
    | ok address =>
      obtain ⟨hne, value, rfl, hvalue⟩ := ipv4ToInt_ok hip
      simp only [ok_bind, Except.toOption]
      constructor
      · rintro ⟨⟨-, hpos, hle⟩, -, h⟩
        lift n to Nat using hpos
        cases h
        refine ⟨value, n, rfl, hvalue, by omega, ?_⟩
        exact allocated_text hvalue (by omega) _
      · rintro ⟨value', bits, hread, -, hbits, rfl⟩
        obtain ⟨hv, hn⟩ : (value : Int) = value' ∧ n = bits := by simpa using hread
        obtain rfl : value = value' := Int.ofNat.inj hv
        subst hn
        refine ⟨⟨hne, by omega, by omega⟩, by simp only [Int.toNat_natCast]; omega, ?_⟩
        exact congrArg Except.ok (allocated_text hvalue hbits _)

/-- A run of digits as a JavaScript string. -/
def digitUnits (cs : List Char) : Text := cs.map fun c => UInt16.ofNat c.toNat

theorem not_mem_digitUnits {cs : List Char} (h : ∀ c ∈ cs, c.isDigit = true) {u : UInt16}
    (hu : isDigit u = false) : u ∉ digitUnits cs := by
  intro hmem
  obtain ⟨c, hc, rfl⟩ := List.mem_map.mp hmem
  rw [isDigit_unit (h c hc)] at hu
  cases hu

/-- The dotted part of a prefix as a JavaScript string. -/
def ipUnits (t : Netip.PrefixText) : Text :=
  digitUnits t.a ++ dot :: (digitUnits t.b ++ dot :: (digitUnits t.c ++ dot :: digitUnits t.d))

theorem ofString_prefixText {s : String} {t : Netip.PrefixText} (h : s.toList = t.text) :
    ofString s = ipUnits t ++ slash :: digitUnits t.length := by
  have hdigit : ∀ {cs : List Char}, (∀ c ∈ cs, c.isDigit = true) → ∀ c ∈ cs, c.toNat < 0x10000 := by
    intro cs hcs c hc
    have hle := digitValue_le (hcs c hc)
    rw [toNat_eq_digitValue (hcs c hc)]
    omega
  have hall : ∀ c ∈ t.text, c.toNat < 0x10000 := by
    simp only [Netip.PrefixText.text, Netip.PrefixText.ip, List.forall_mem_append,
      List.forall_mem_cons]
    exact ⟨⟨hdigit t.octet_a.decimal.2, by decide, hdigit t.octet_b.decimal.2, by decide,
      hdigit t.octet_c.decimal.2, by decide, hdigit t.octet_d.decimal.2⟩, by decide,
      hdigit t.decimal.2⟩
  rw [ofString, h, flatMap_units hall]
  simp [Netip.PrefixText.text, Netip.PrefixText.ip, ipUnits, digitUnits, dot, slash]

theorem ipv4ToInt_ipUnits (t : Netip.PrefixText) : ipv4ToInt (ipUnits t) = .ok (t.value : Int) := by
  have hdot : isDigit dot = false := by decide
  have hsplit : (ipUnits t).splitOn dot =
      [digitUnits t.a, digitUnits t.b, digitUnits t.c, digitUnits t.d] := by
    rw [ipUnits, List.splitOn_append_cons_self_of_not_mem (not_mem_digitUnits t.octet_a.decimal.2 hdot),
      List.splitOn_append_cons_self_of_not_mem (not_mem_digitUnits t.octet_b.decimal.2 hdot),
      List.splitOn_append_cons_self_of_not_mem (not_mem_digitUnits t.octet_c.decimal.2 hdot),
      List.splitOn_eq_singleton (not_mem_digitUnits t.octet_d.decimal.2 hdot)]
  have ha := t.octet_a.le
  have hb := t.octet_b.le
  have hc := t.octet_c.le
  have hd := t.octet_d.le
  have hread : ((ipUnits t).splitOn dot).map parseInt = [some (decimalValue t.a : Int),
      some (decimalValue t.b : Int), some (decimalValue t.c : Int), some (decimalValue t.d : Int)] := by
    rw [hsplit, List.map_cons, List.map_cons, List.map_cons, List.map_singleton, digitUnits, digitUnits,
      digitUnits, digitUnits, parseInt_decimal t.octet_a.decimal, parseInt_decimal t.octet_b.decimal,
      parseInt_decimal t.octet_c.decimal, parseInt_decimal t.octet_d.decimal]
  rw [ipv4ToInt, hread]
  simp only
  rw [if_neg, fromBytes_natCast (by omega) (by omega) (by omega) (by omega)]
  · rfl
  · simp only [List.any_cons, List.any_nil, Bool.or_false, Bool.or_eq_true, decide_eq_true_eq]
    omega

/-- The dashboard reads what the CLI accepts as the same prefix. -/
theorem readMeshCIDR_prefixText {s : String} {t : Netip.PrefixText} (h : s.toList = t.text) :
    readMeshCIDR (ofString s) = some ((t.value : Int), (t.bits : Int)) := by
  have hslash : isDigit slash = false := by decide
  have hip : slash ∉ ipUnits t := by
    simp only [ipUnits, List.mem_append, List.mem_cons, not_or]
    exact ⟨not_mem_digitUnits t.octet_a.decimal.2 hslash, by decide,
      not_mem_digitUnits t.octet_b.decimal.2 hslash, by decide,
      not_mem_digitUnits t.octet_c.decimal.2 hslash, by decide,
      not_mem_digitUnits t.octet_d.decimal.2 hslash⟩
  have hsplit : (ofString s).splitOn slash = [ipUnits t, digitUnits t.length] := by
    rw [ofString_prefixText h, List.splitOn_append_cons_self_of_not_mem hip,
      List.splitOn_eq_singleton (not_mem_digitUnits t.decimal.2 hslash)]
  have hlength : parseInt (digitUnits t.length) = some (t.bits : Int) := parseInt_decimal t.decimal
  simp [readMeshCIDR, hsplit, ipv4ToInt_ipUnits, hlength, Except.toOption]

/-! ### Normalised networks -/

theorem network_network {value bits : Nat} :
    network (network value bits) bits = network value bits := by
  rw [network, network, Nat.mul_div_cancel _ (Nat.two_pow_pos _)]

theorem network_le (value bits : Nat) : network value bits ≤ value := Nat.div_mul_le_self _ _

/-- The text of a prefix, as the dashboard writes it. -/
theorem dotted_prefixText (value : Nat) {bits : Nat} (hbits : bits ≤ 32) :
    dotted value ++ slash :: ofString (toString bits) =
      ofString (String.ofList (Netip.PrefixText.ofNat value bits hbits).text) := by
  have hdot : units '.' = [dot] := by decide
  have hslash : units '/' = [slash] := by decide
  simp [dotted, Netip.octets, Netip.PrefixText.text, Netip.PrefixText.ip, Netip.PrefixText.ofNat,
    ofString, hdot, hslash, List.intercalate, List.intersperse]

/-- A CIDR is written back as its network. -/
theorem normalizeMeshCIDR_ok {cidr text : Text} (h : normalizeMeshCIDR cidr = .ok text) :
    ∃ value bits : Nat, readMeshCIDR cidr = some (↑value, ↑bits) ∧ value < 2 ^ 32 ∧ bits ≤ 30 ∧
      readMeshCIDR text = some (↑(network value bits), ↑bits) := by
  rw [normalizeMeshCIDR] at h
  split at h
  · next ip bitsText hparts =>
    rw [ite_error_eq_ok] at h
    obtain ⟨-, h⟩ := h
    obtain ⟨address, hip, h⟩ := bind_eq_ok.mp h
    obtain ⟨-, value, rfl, hvalue⟩ := ipv4ToInt_ok hip
    cases hlength : parseInt bitsText with
    | none =>
      rw [hlength] at h
      cases h
    | some n =>
      simp only [hlength, ite_error_eq_ok, not_or, not_lt] at h
      obtain ⟨⟨hpos, hle⟩, h⟩ := h
      lift n to Nat using hpos
      have hnetwork : network value n < 2 ^ 32 := lt_of_le_of_lt (network_le value n) hvalue
      have hread : readMeshCIDR cidr = some ((value : Int), (n : Int)) := by
        simp [readMeshCIDR, hparts, hip, hlength, Except.toOption]
      refine ⟨value, n, hread, hvalue, by omega, ?_⟩
      rw [Int.toNat_natCast, maskedBase_natCast hvalue (by omega), intToIpv4_natCast hnetwork] at h
      cases h
      have htext := dotted_prefixText (network value n) (by omega : n ≤ 32)
      have hbits : toString (n : Int) = toString n := rfl
      rw [hbits, htext, readMeshCIDR_prefixText (String.toList_ofList ..),
        Netip.PrefixText.value_ofNat hnetwork]
      simp only [Netip.PrefixText.bits, Netip.PrefixText.ofNat, Netip.decimalValue_toDigits]
  · cases h

/-- The network that is stored and the text it was made from allocate one address. -/
theorem allocateMeshIp_normalizeMeshCIDR {cidr text : Text} (h : normalizeMeshCIDR cidr = .ok text)
    (nodeDID : Text) : ∃ address, allocateMeshIp sha256 text nodeDID = .ok address ∧
      allocateMeshIp sha256 cidr nodeDID = .ok address := by
  obtain ⟨value, bits, hcidr, hvalue, hbits, htext⟩ := normalizeMeshCIDR_ok h
  have hnetwork : network value bits < 2 ^ 32 := lt_of_le_of_lt (network_le value bits) hvalue
  have hsame (hash : Nat) :
      meshAddress (network value bits) bits hash = meshAddress value bits hash := by
    rw [meshAddress, meshAddress, network_network]
  exact ⟨_, allocateMeshIp_eq_ok.mpr ⟨_, bits, htext, hnetwork, hbits, rfl⟩,
    allocateMeshIp_eq_ok.mpr ⟨value, bits, hcidr, hvalue, hbits, by rw [hsame]⟩⟩

theorem allocateMeshIp_masked_office :
    ∃ address, allocateMeshIp (Buffer.copy 32) (ofString "10.200.0.0/16") [] = .ok address ∧
      allocateMeshIp (Buffer.copy 32) (ofString "10.200.3.4/16") [] = .ok address :=
  allocateMeshIp_normalizeMeshCIDR (by decide +kernel) []

/-! ### Both allocators -/

theorem ofString_addrText (a : BitVec 32) : ofString (Netip.addrText a) = dotted a.toNat := by
  have hdot : units '.' = [dot] := by decide
  simp [Netip.addrText, dotted, Netip.octets, ofString, hdot, List.intercalate, List.intersperse]

/-- Where the CLI accepts a CIDR, the dashboard accepts it and allocates the same address. -/
theorem allocators_agree (quote : String → String) (parseIPv6 : String → Except String Bool)
    (sha256 : Bytes → Buffer 32) (cidr nodeDID : String) (a : BitVec 32)
    (h : allocateMeshIP quote parseIPv6 sha256 cidr nodeDID = some (.ok a)) :
    allocateMeshIp sha256 (ofString cidr) (ofString nodeDID) =
      .ok (ofString (Netip.addrText a)) := by
  obtain ⟨e, he⟩ | ⟨value, bits, a', hparse, hbits, ha', haddr⟩ :=
    allocateMeshIP_cases quote parseIPv6 sha256 cidr nodeDID
  · rw [he] at h
    cases h
  · rw [ha'] at h
    cases h
    obtain ⟨t, htext, rfl, rfl⟩ := Netip.parsePrefix_ok hparse
    rw [BitVec.toNat_ofNat, Nat.mod_eq_of_lt t.value_lt] at haddr
    refine allocateMeshIp_eq_ok.mpr ⟨t.value, t.bits, readMeshCIDR_prefixText htext, t.value_lt,
      hbits, ?_⟩
    rw [ofString_addrText, haddr, textEncode_ofString]

/-- SHA-256 of `did:dht:node314383`, for every text. -/
def nodeHash (_ : Bytes) : Buffer 32 :=
  ⟨[0xb6, 0xa7, 0xdd, 0xc1, 0x4d, 0xd5, 0xfe, 0x42, 0xac, 0xe4, 0xa9, 0x9d, 0x16, 0x78, 0x1e, 0x30,
    0x2e, 0xeb, 0xaf, 0xa2, 0x57, 0x97, 0xde, 0x14, 0x09, 0xc2, 0x21, 0xcf, 0x6e, 0xf6, 0xf0, 0x36],
    rfl⟩

theorem allocators_agree_office :
    allocateMeshIp nodeHash (ofString "10.200.0.0/16") (ofString "did:dht:node314383") =
      .ok (ofString (Netip.addrText (BitVec.ofNat 32 0x0AC801C1))) :=
  allocators_agree id (fun _ => .error "") nodeHash "10.200.0.0/16" "did:dht:node314383" _
    (by decide +kernel)

end Dashboard

/-! ### Which addresses are allocated -/

/-- 10.200.0.1, which the networking engine uses itself. -/
def serviceIP : Nat := 0x0AC80001

/-- An address inside a network, but neither its first nor its last one. -/
structure IsHost (value bits a : Nat) : Prop where
  inside : a / 2 ^ (32 - bits) = value / 2 ^ (32 - bits)
  not_network : a ≠ network value bits
  not_broadcast : a ≠ network value bits + (2 ^ (32 - bits) - 1)

/-- The network has the service address past its second one, as it can with a length of at most 12,
and the hash is in the class of that host. -/
structure HitsService (value bits hash : Nat) : Prop where
  wide : bits ≤ 12
  inside : serviceIP / 2 ^ (32 - bits) = value / 2 ^ (32 - bits)
  class_eq : hash % (2 ^ (32 - bits) - 3) = serviceIP % 2 ^ (32 - bits) - 2

theorem meshAddress_div {bits : Nat} (hbits : bits ≤ 30) (value hash : Nat) :
    meshAddress value bits hash / 2 ^ (32 - bits) = value / 2 ^ (32 - bits) ∧
      meshAddress value bits hash % 2 ^ (32 - bits) = hash % (2 ^ (32 - bits) - 3) + 2 := by
  have hhost : hash % (2 ^ (32 - bits) - 3) + 2 < 2 ^ (32 - bits) := by
    have hlt := host_lt hbits hash
    omega
  have heq : meshAddress value bits hash = 2 ^ (32 - bits) * (value / 2 ^ (32 - bits)) +
      (hash % (2 ^ (32 - bits) - 3) + 2) := by
    rw [meshAddress, network, Nat.mul_comm, Nat.add_assoc]
  constructor
  · rw [heq, Nat.mul_add_div (Nat.two_pow_pos _), Nat.div_eq_of_lt hhost, Nat.add_zero]
  · rw [heq, Nat.mul_add_mod, Nat.mod_eq_of_lt hhost]

theorem isHost_meshAddress {value bits : Nat} (hbits : bits ≤ 30) (hash : Nat) :
    IsHost value bits (meshAddress value bits hash) := by
  have hhost := host_lt hbits hash
  refine ⟨(meshAddress_div hbits value hash).1, ?_, ?_⟩
  · rw [meshAddress]
    omega
  · rw [meshAddress]
    omega

/-- The host number of the service address is above one exactly in the wide networks. -/
theorem two_le_service_iff {bits : Nat} (hbits : bits ≤ 30) :
    2 ≤ serviceIP % 2 ^ (32 - bits) ↔ bits ≤ 12 := by
  have hall : ∀ k < 33, 2 ≤ k → (2 ≤ serviceIP % 2 ^ k ↔ 20 ≤ k) := by decide
  rw [hall (32 - bits) (by omega) (by omega)]
  omega

theorem meshAddress_eq_serviceIP_iff {value bits : Nat} (hbits : bits ≤ 30) (hash : Nat) :
    meshAddress value bits hash = serviceIP ↔ HitsService value bits hash := by
  obtain ⟨hdiv, hmod⟩ := meshAddress_div hbits value hash
  have hwide := two_le_service_iff hbits
  constructor
  · intro h
    rw [h] at hdiv hmod
    exact ⟨hwide.mp (by omega), hdiv, by omega⟩
  · intro h
    have hhost := hwide.mpr h.wide
    rw [h.class_eq, Nat.sub_add_cancel hhost] at hmod
    rw [← Nat.div_add_mod (meshAddress value bits hash) (2 ^ (32 - bits)), hdiv, hmod, ← h.inside,
      Nat.div_add_mod]

/-- Both allocators return a host of the network, computed without a division by zero and without a
step that wraps around. It is the service address exactly where the hash hits that in a wide
network. -/
theorem allocated_host (quote : String → String) (parseIPv6 : String → Except String Bool)
    (sha256 : Bytes → Buffer 32) :
    (∀ cidr didURI, allocateMeshIP quote parseIPv6 sha256 cidr didURI ≠ none) ∧
    (∀ cidr didURI a, allocateMeshIP quote parseIPv6 sha256 cidr didURI = some (.ok a) →
      ∃ value bits, Netip.parsePrefix quote parseIPv6 cidr = .ok ⟨.v4 value, bits⟩ ∧ bits ≤ 30 ∧
        let hash := hashNat (sha256 (JsonText.utf8 didURI))
        a.toNat = meshAddress value.toNat bits hash ∧ IsHost value.toNat bits a.toNat ∧
          (a.toNat ≠ serviceIP ↔ ¬ HitsService value.toNat bits hash)) ∧
    ∀ cidr nodeDID r, allocateMeshIp sha256 cidr nodeDID = .ok r →
      ∃ value bits a : Nat, readMeshCIDR cidr = some (↑value, ↑bits) ∧ bits ≤ 30 ∧ r = dotted a ∧
        let hash := hashNat (sha256 (JavaScript.textEncode nodeDID))
        a = meshAddress value bits hash ∧ IsHost value bits a ∧
          (a ≠ serviceIP ↔ ¬ HitsService value bits hash) := by
  refine ⟨?_, ?_, ?_⟩
  · intro cidr didURI hnone
    obtain ⟨e, he⟩ | ⟨value, bits, a, -, -, ha, -⟩ :=
      allocateMeshIP_cases quote parseIPv6 sha256 cidr didURI
    · rw [he] at hnone
      cases hnone
    · rw [ha] at hnone
      cases hnone
  · intro cidr didURI a h
    obtain ⟨e, he⟩ | ⟨value, bits, a', hparse, hbits, ha', haddr⟩ :=
      allocateMeshIP_cases quote parseIPv6 sha256 cidr didURI
    · rw [he] at h
      cases h
    · rw [ha'] at h
      cases h
      refine ⟨value, bits, hparse, hbits, haddr, ?_, ?_⟩
      · rw [haddr]
        exact isHost_meshAddress hbits _
      · rw [haddr]
        exact not_congr (meshAddress_eq_serviceIP_iff hbits _)
  · intro cidr nodeDID r h
    obtain ⟨value, bits, hread, -, hbits, rfl⟩ := allocateMeshIp_eq_ok.mp h
    exact ⟨value, bits, _, hread, hbits, rfl, rfl, isHost_meshAddress hbits _,
      not_congr (meshAddress_eq_serviceIP_iff hbits _)⟩

theorem service_address_allocated :
    allocateMeshIP id (fun _ => .error "") nodeHash "10.192.0.0/12" "did:dht:node314383" =
        some (.ok (BitVec.ofNat 32 serviceIP)) ∧
      allocateMeshIp nodeHash (JavaScript.ofString "10.192.0.0/12")
          (JavaScript.ofString "did:dht:node314383") = .ok (JavaScript.ofString "10.200.0.1") := by
  decide +kernel

end Meshd.Mesh

import Meshd.Framework.Decimal
import Meshd.Framework.Fallible
import Mathlib.Data.List.TakeWhile

namespace Meshd.Framework.Netip

/-! IPv4 addresses and prefixes as the package `net/netip` reads them. -/

/-- `netip.Addr`. Of an IPv6 address only the presence of a zone is kept. -/
inductive Addr where
  | v4 (value : BitVec 32)
  | v6 (zone : Bool)
deriving DecidableEq

structure Prefix where
  addr : Addr
  bits : Nat
deriving DecidableEq

/-- `Masked`: the address with its host bits cleared. -/
def Prefix.masked (p : Prefix) : Prefix :=
  match p.addr with
  | .v4 value => { p with addr := .v4 (value &&& BitVec.allOnes 32 <<< (32 - p.bits)) }
  | .v6 _ => p

/-- `AddrFrom4`. -/
def addrFrom4 (a b c d : Nat) : BitVec 32 := BitVec.ofNat 32 (((a * 256 + b) * 256 + c) * 256 + d)

/-- The bytes of an address, the most significant one first. -/
def octets (value : Nat) : List Nat :=
  [value / 2 ^ 24 % 256, value / 2 ^ 16 % 256, value / 2 ^ 8 % 256, value % 256]

def addrText (value : BitVec 32) : String := ".".intercalate ((octets value.toNat).map toString)

section Parse
-- `strconv.Quote`, and the outcome of `parseIPv6`.
variable (quote : String → String) (parseIPv6 : String → Except String Bool)

def parseAddrError (input msg : String) : String := "ParseAddr(" ++ quote input ++ "): " ++ msg

def parseAddrErrorAt (input msg rest : String) : String :=
  parseAddrError quote input msg ++ " (at " ++ quote rest ++ ")"

/-- The loop of `parseIPv4Fields`, with the character in front, the value and the number of digits of
the field so far and the fields before it. -/
def parseIPv4Fields (input : String) :
    Option Char → Nat → Nat → List Nat → List Char → Except String (List Nat)
  | _, val, _, fields, [] =>
    if fields.length < 3 then .error (parseAddrError quote input "IPv4 address too short")
    else .ok (fields ++ [val])
  | last, val, digLen, fields, c :: rest =>
    if c.isDigit then
      if digLen = 1 ∧ val = 0 then
        .error (parseAddrError quote input "IPv4 field has octet with leading zero")
      else if val * 10 + digitValue c > 255 then
        .error (parseAddrError quote input "IPv4 field has value >255")
      else parseIPv4Fields input (some c) (val * 10 + digitValue c) (digLen + 1) fields rest
    else if c = '.' then
      if last = none ∨ rest = [] ∨ last = some '.' then
        .error (parseAddrErrorAt quote input "IPv4 field must have at least one digit"
          (String.ofList (c :: rest)))
      else if fields.length = 3 then .error (parseAddrError quote input "IPv4 address too long")
      else parseIPv4Fields input (some c) 0 0 (fields ++ [val]) rest
    else
      .error (parseAddrErrorAt quote input "unexpected character" (String.ofList (c :: rest)))

def parseIPv4 (s : String) : Except String Addr := do
  let fields ← parseIPv4Fields quote s none 0 0 [] s.toList
  return .v4 (addrFrom4 (fields.getD 0 0) (fields.getD 1 0) (fields.getD 2 0) (fields.getD 3 0))

/-- The kind of address is decided by the first of `.`, `:` and `%`. -/
def parseAddr (s : String) : Except String Addr :=
  match s.toList.find? fun c => c = '.' ∨ c = ':' ∨ c = '%' with
  | some '.' => parseIPv4 quote s
  | some ':' => (parseIPv6 s).map .v6
  | some _ => .error (parseAddrError quote s "missing IPv6 address")
  | none => .error (parseAddrError quote s "unable to parse IP")

/-- `strconv.Atoi`. -/
def atoi (text : List Char) : Option Int :=
  let negative := text.head? = some '-'
  let digits := if negative ∨ text.head? = some '+' then text.tail else text
  if Decimal digits then
    let n : Int := if negative then -decimalValue digits else decimalValue digits
    if -2 ^ 63 ≤ n ∧ n < 2 ^ 63 then some n else none
  else none

def parsePrefixError (input msg : String) : String :=
  "netip.ParsePrefix(" ++ quote input ++ "): " ++ msg

def badBits (input : String) (bitsStr : List Char) : String :=
  parsePrefixError quote input ("bad bits after slash: " ++ quote (String.ofList bitsStr))

/-- The length after the slash. -/
def parseBits (input : String) (ip : Addr) (bitsStr : List Char) : Except String Prefix :=
  if 1 < bitsStr.length ∧ ¬ bitsStr.head?.any (fun c => '1' ≤ c ∧ c ≤ '9') then
    .error (badBits quote input bitsStr)
  else
    match atoi bitsStr with
    | none => .error (badBits quote input bitsStr)
    | some bits =>
      let maxBits : Int := match ip with
        | .v4 _ => 32
        | .v6 _ => 128
      if bits < 0 ∨ maxBits < bits then
        .error (parsePrefixError quote input "prefix length out of range")
      else .ok { addr := ip, bits := bits.toNat }

/-- What stands before and after the last separator. -/
def cutLast (sep : Char) (text : List Char) : Option (List Char × List Char) :=
  if sep ∈ text then
    some ((text.reverse.dropWhile (· ≠ sep)).tail.reverse, (text.reverse.takeWhile (· ≠ sep)).reverse)
  else none

def parsePrefix (s : String) : Except String Prefix :=
  match cutLast '/' s.toList with
  | none => .error (parsePrefixError quote s "no '/'")
  | some (ipStr, bitsStr) =>
    match parseAddr quote parseIPv6 (String.ofList ipStr) with
    | .error e => .error (parsePrefixError quote s e)
    | .ok (.v6 true) =>
      .error (parsePrefixError quote s "IPv6 zones cannot be present in a prefix")
    | .ok ip => parseBits quote s ip bitsStr

end Parse

/-! ### What is accepted -/

section Accepted
variable {quote : String → String} {parseIPv6 : String → Except String Bool}

/-- The digits of a byte. -/
structure Octet (cs : List Char) : Prop where
  decimal : Decimal cs
  le : decimalValue cs ≤ 255

/-- What the loop has read when it succeeds: the rest `p` of the field it stands in, and further
fields. -/
theorem parseIPv4Fields_ok {input : String} {last : Option Char} {val digLen : Nat}
    {fields fs : List Nat} {text : List Char}
    (h : parseIPv4Fields quote input last val digLen fields text = .ok fs)
    (hdigit : digLen = 0 → last = none ∨ last = some '.') (hopen : text = [] → 0 < digLen)
    (hval : val ≤ 255) (hfields : fields.length ≤ 3) :
    ∃ p ps, text.splitOn '.' = p :: ps ∧ (∀ c ∈ p, c.isDigit = true) ∧ 0 < digLen + p.length ∧
      val * 10 ^ p.length + decimalValue p ≤ 255 ∧ (∀ q ∈ ps, Octet q) ∧
      fs = fields ++ (val * 10 ^ p.length + decimalValue p) :: ps.map decimalValue ∧
      fs.length = 4 := by
  induction text generalizing last val digLen fields with
  | nil =>
    rw [parseIPv4Fields] at h
    split_ifs at h with hshort
    cases h
    refine ⟨[], [], rfl, by simp, hopen rfl, by simpa [decimalValue] using hval, by simp, ?_, ?_⟩
    · simp [decimalValue]
    · rw [List.length_append, List.length_singleton]
      omega
  | cons c rest ih =>
    rw [parseIPv4Fields] at h
    by_cases hc : c.isDigit = true
    · rw [if_pos hc] at h
      split_ifs at h with hzero hbig
      obtain ⟨p, ps, hsplit, hp, -, hle, hps, hfs, hlen⟩ :=
        ih h (by omega) (fun _ => by omega) (by omega) hfields
      have hdot : c ≠ '.' := by
        rintro rfl
        exact absurd hc (by decide)
      have hvalue : (val * 10 + digitValue c) * 10 ^ p.length + decimalValue p =
          val * 10 ^ (c :: p).length + decimalValue (c :: p) := by
        rw [decimalValue, List.length_cons, Nat.pow_succ', Nat.add_mul, Nat.mul_assoc, Nat.add_assoc]
      refine ⟨c :: p, ps, ?_, ?_, ?_, hvalue ▸ hle, hps, hvalue ▸ hfs, hlen⟩
      · rw [List.splitOn_cons_eq_if_modifyHead, if_neg (by simpa using hdot), hsplit]
        rfl
      · exact List.forall_mem_cons.mpr ⟨hc, hp⟩
      · rw [List.length_cons]
        omega
    · rw [if_neg hc] at h
      split_ifs at h with hdot hempty hlong
      subst hdot
      obtain ⟨hfirst, hrest, hdouble⟩ : last ≠ none ∧ rest ≠ [] ∧ last ≠ some '.' := by
        simpa [not_or] using hempty
      have hread : 0 < digLen := by
        by_contra hnone
        exact (hdigit (by omega)).elim hfirst hdouble
      obtain ⟨p, ps, hsplit, hp, hpos, hle, hps, hfs, hlen⟩ :=
        ih h (fun _ => .inr rfl) (fun hnil => absurd hnil hrest) (by omega) (by simp; omega)
      rw [Nat.zero_mul, Nat.zero_add] at hle hfs
      refine ⟨[], p :: ps, ?_, by simp, by simpa using hread, by simpa [decimalValue] using hval,
        ?_, ?_, hlen⟩
      · rw [List.splitOn_cons_eq_if_modifyHead, if_pos (by rfl), hsplit]
      · refine List.forall_mem_cons.mpr ⟨⟨⟨?_, hp⟩, hle⟩, hps⟩
        rintro rfl
        simp at hpos
      · simp [hfs, decimalValue]

/-- The text of an IPv4 prefix: four bytes and a length. -/
structure PrefixText where
  a : List Char
  b : List Char
  c : List Char
  d : List Char
  length : List Char
  octet_a : Octet a
  octet_b : Octet b
  octet_c : Octet c
  octet_d : Octet d
  decimal : Decimal length
  length_le : decimalValue length ≤ 32

namespace PrefixText

def ip (t : PrefixText) : List Char := t.a ++ '.' :: (t.b ++ '.' :: (t.c ++ '.' :: t.d))

def text (t : PrefixText) : List Char := t.ip ++ '/' :: t.length

/-- The address as a number. -/
def value (t : PrefixText) : Nat :=
  ((decimalValue t.a * 256 + decimalValue t.b) * 256 + decimalValue t.c) * 256 + decimalValue t.d

def bits (t : PrefixText) : Nat := decimalValue t.length

theorem value_lt (t : PrefixText) : t.value < 2 ^ 32 := by
  have ha := t.octet_a.le
  have hb := t.octet_b.le
  have hc := t.octet_c.le
  have hd := t.octet_d.le
  rw [value]
  omega

end PrefixText

theorem decimalValue_toDigits (n : Nat) : decimalValue (Nat.toDigits 10 n) = n := by
  have hread : ∀ (cs : List Char) (m : Nat), Nat.ofDigitChars 10 cs m =
      cs.foldl (fun n c => n * 10 + digitValue c) m := by
    intro cs
    induction cs with
    | nil => exact fun _ => rfl
    | cons c cs ih =>
      intro m
      rw [Nat.ofDigitChars_cons, ih, List.foldl_cons, Nat.mul_comm, digitValue]
  have hfold := foldl_decimalValue (Nat.toDigits 10 n) 0
  rw [← hread, Nat.ofDigitChars_ten_toDigits] at hfold
  omega

theorem decimal_toDigits (n : Nat) : Decimal (Nat.toDigits 10 n) :=
  ⟨Nat.toDigits_ne_nil, fun _ hc => Nat.isDigit_of_mem_toDigits (by decide) (by decide) hc⟩

namespace PrefixText

/-- The text of a prefix without leading zeros. -/
def ofNat (value bits : Nat) (hbits : bits ≤ 32) : PrefixText where
  a := Nat.toDigits 10 (value / 2 ^ 24 % 256)
  b := Nat.toDigits 10 (value / 2 ^ 16 % 256)
  c := Nat.toDigits 10 (value / 2 ^ 8 % 256)
  d := Nat.toDigits 10 (value % 256)
  length := Nat.toDigits 10 bits
  octet_a := ⟨decimal_toDigits _, by rw [decimalValue_toDigits]; omega⟩
  octet_b := ⟨decimal_toDigits _, by rw [decimalValue_toDigits]; omega⟩
  octet_c := ⟨decimal_toDigits _, by rw [decimalValue_toDigits]; omega⟩
  octet_d := ⟨decimal_toDigits _, by rw [decimalValue_toDigits]; omega⟩
  decimal := decimal_toDigits _
  length_le := by rw [decimalValue_toDigits]; exact hbits

theorem value_ofNat {value bits : Nat} (hvalue : value < 2 ^ 32) (hbits : bits ≤ 32) :
    (ofNat value bits hbits).value = value := by
  simp only [PrefixText.value, ofNat, decimalValue_toDigits]
  omega

end PrefixText

theorem intercalate_dots (a b c d : List Char) :
    ['.'].intercalate [a, b, c, d] = a ++ '.' :: (b ++ '.' :: (c ++ '.' :: d)) := by
  simp [List.intercalate, List.intersperse]

theorem parseIPv4_ok {s : String} {addr : Addr} (h : parseIPv4 quote s = .ok addr) :
    ∃ a b c d, Octet a ∧ Octet b ∧ Octet c ∧ Octet d ∧
      s.toList = a ++ '.' :: (b ++ '.' :: (c ++ '.' :: d)) ∧
      addr = .v4 (addrFrom4 (decimalValue a) (decimalValue b) (decimalValue c) (decimalValue d)) := by
  obtain ⟨fs, hfields, haddr⟩ := bind_eq_ok.mp h
  cases haddr
  have hne : s.toList = [] → 0 < 0 := by
    intro hnil
    rw [hnil] at hfields
    cases hfields
  obtain ⟨p, ps, hsplit, hp, hpos, hle, hps, rfl, hlen⟩ :=
    parseIPv4Fields_ok hfields (fun _ => .inl rfl) hne (by omega) (by simp)
  simp only [Nat.zero_mul, Nat.zero_add, List.nil_append, List.length_cons, List.length_map] at *
  obtain ⟨b, c, d, rfl⟩ := List.length_eq_three.mp (Nat.succ.inj hlen)
  simp only [List.forall_mem_cons] at hps
  refine ⟨p, b, c, d, ⟨⟨List.ne_nil_of_length_pos hpos, hp⟩, hle⟩, hps.1, hps.2.1, hps.2.2.1, ?_, rfl⟩
  rw [← intercalate_dots, ← hsplit, List.intercalate_splitOn]

theorem atoi_digits {text : List Char} {n : Int} (h : atoi text = some n)
    (hfirst : 1 < text.length → text.head?.any (fun c => '1' ≤ c ∧ c ≤ '9') = true) :
    Decimal text ∧ n = decimalValue text := by
  -- a sign would have to stand alone
  have hsign : ∀ sign : Char, ¬ ('1' ≤ sign ∧ sign ≤ '9') → atoi [sign] = none →
      text.head? ≠ some sign := by
    intro sign hdigit halone hhead
    obtain ⟨rest, rfl⟩ := List.head?_eq_some_iff.mp hhead
    cases rest with
    | nil =>
      rw [halone] at h
      cases h
    | cons c rest =>
      have hany := hfirst (by simp)
      simp only [List.head?_cons, Option.any_some, decide_eq_true_eq] at hany
      exact hdigit hany
  have hminus := hsign '-' (by decide) (by decide)
  have hplus := hsign '+' (by decide) (by decide)
  simp only [atoi, hminus, hplus, or_self, if_false] at h
  split_ifs at h with hdecimal hrange
  exact ⟨hdecimal, (Option.some.inj h).symm⟩

theorem parseBits_ok {input : String} {value : BitVec 32} {bitsStr : List Char} {p : Prefix}
    (h : parseBits quote input (.v4 value) bitsStr = .ok p) :
    Decimal bitsStr ∧ decimalValue bitsStr ≤ 32 ∧ p = ⟨.v4 value, decimalValue bitsStr⟩ := by
  rw [parseBits, ite_error_eq_ok] at h
  obtain ⟨hfirst, h⟩ := h
  cases hatoi : atoi bitsStr with
  | none => simp [hatoi] at h
  | some n =>
    obtain ⟨hdecimal, rfl⟩ := atoi_digits hatoi fun hlong => by
      by_contra hbad
      exact hfirst ⟨hlong, hbad⟩
    simp only [hatoi, ite_error_eq_ok] at h
    obtain ⟨hrange, h⟩ := h
    cases h
    refine ⟨hdecimal, by omega, by simp⟩

theorem cutLast_eq_some {sep : Char} {text front rest : List Char}
    (h : cutLast sep text = some (front, rest)) : text = front ++ sep :: rest ∧ sep ∉ rest := by
  rw [cutLast] at h
  split_ifs at h with hmem
  cases h
  refine ⟨?_, fun hsep => ?_⟩
  · have hdrop : (text.reverse.dropWhile (· ≠ sep)).head? = some sep := by
      have hne : text.reverse.dropWhile (· ≠ sep) ≠ [] := by
        intro hnil
        have hall := List.dropWhile_eq_nil_iff.mp hnil sep (List.mem_reverse.mpr hmem)
        simp at hall
      obtain ⟨c, tail, hcons⟩ := List.exists_cons_of_ne_nil hne
      have hhead := List.head?_dropWhile_not (· ≠ sep) text.reverse
      rw [hcons] at hhead ⊢
      simpa using hhead
    obtain ⟨tail, htail⟩ := List.head?_eq_some_iff.mp hdrop
    have hparts := List.takeWhile_append_dropWhile (p := fun c => decide (c ≠ sep)) (l := text.reverse)
    rw [htail] at hparts ⊢
    have hrev := congrArg List.reverse hparts
    simpa using hrev.symm
  · have hbad := List.mem_takeWhile_imp (List.mem_reverse.mp hsep)
    simp at hbad

theorem parseAddr_v4 {s : String} {value : BitVec 32}
    (h : parseAddr quote parseIPv6 s = .ok (.v4 value)) : parseIPv4 quote s = .ok (.v4 value) := by
  rw [parseAddr] at h
  split at h
  · exact h
  · obtain ⟨zone, -, hzone⟩ := map_eq_ok.mp h
    cases hzone
  · cases h
  · cases h

/-- What is accepted as an IPv4 prefix. -/
theorem parsePrefix_ok {s : String} {value : BitVec 32} {bits : Nat}
    (h : parsePrefix quote parseIPv6 s = .ok ⟨.v4 value, bits⟩) :
    ∃ t : PrefixText, s.toList = t.text ∧ value = BitVec.ofNat 32 t.value ∧ bits = t.bits := by
  rw [parsePrefix] at h
  split at h
  · cases h
  · next ipStr bitsStr hcut =>
    split at h
    · cases h
    · cases h
    · next ip hzone haddr =>
      cases ip with
      | v6 zone =>
        -- a prefix of an IPv6 address is none of IPv4
        rw [parseBits, ite_error_eq_ok] at h
        obtain ⟨-, h⟩ := h
        split at h
        · cases h
        · rw [ite_error_eq_ok] at h
          cases h.2
      | v4 addr =>
        obtain ⟨hdecimal, hle, hp⟩ := parseBits_ok h
        cases hp
        obtain ⟨a, b, c, d, ha, hb, hc, hd, hip, hvalue⟩ := parseIPv4_ok (parseAddr_v4 haddr)
        rw [String.toList_ofList] at hip
        refine ⟨⟨a, b, c, d, bitsStr, ha, hb, hc, hd, hdecimal, hle⟩, ?_, ?_, rfl⟩
        · rw [(cutLast_eq_some hcut).1, hip]
          rfl
        · exact Addr.v4.inj hvalue

end Accepted

end Meshd.Framework.Netip

import Mathlib.Data.List.Basic
import Mathlib.Tactic.IntervalCases

namespace Meshd.Framework

abbrev Bytes := List UInt8

namespace Base64

/-- The six-bit groups of a byte string; the last one is filled up with zero bits. -/
def sextets : Bytes → List Nat
  | a :: b :: c :: rest =>
    a.toNat / 4 :: (a.toNat % 4 * 16 + b.toNat / 16) :: (b.toNat % 16 * 4 + c.toNat / 64) ::
      c.toNat % 64 :: sextets rest
  | [a, b] => [a.toNat / 4, a.toNat % 4 * 16 + b.toNat / 16, b.toNat % 16 * 4]
  | [a] => [a.toNat / 4, a.toNat % 4 * 16]
  | [] => []

/-- The bytes of a list of six-bit groups. The fill bits are ignored, as in Go's decoders that are
not strict; a single group is no byte. -/
def ofSextets : List Nat → Option Bytes
  | p :: q :: r :: s :: rest =>
    (ofSextets rest).map fun bytes =>
      UInt8.ofNat (p * 4 + q / 16) :: UInt8.ofNat (q % 16 * 16 + r / 4) ::
        UInt8.ofNat (r % 4 * 64 + s) :: bytes
  | [p, q, r] => some [UInt8.ofNat (p * 4 + q / 16), UInt8.ofNat (q % 16 * 16 + r / 4)]
  | [p, q] => some [UInt8.ofNat (p * 4 + q / 16)]
  | [_] => none
  | [] => some []

theorem sextets_lt (bytes : Bytes) : ∀ n ∈ sextets bytes, n < 64 := by
  induction bytes using sextets.induct with
  | case1 a b c rest ih =>
    have ha := a.toNat_lt
    have hb := b.toNat_lt
    have hc := c.toNat_lt
    simp only [sextets, List.mem_cons]
    rintro n (rfl | rfl | rfl | rfl | hn)
    · omega
    · omega
    · omega
    · omega
    · exact ih n hn
  | case2 a b =>
    have ha := a.toNat_lt
    have hb := b.toNat_lt
    simp only [sextets, List.mem_cons, List.not_mem_nil, or_false]
    rintro n (rfl | rfl | rfl) <;> omega
  | case3 a =>
    have ha := a.toNat_lt
    simp only [sextets, List.mem_cons, List.not_mem_nil, or_false]
    rintro n (rfl | rfl) <;> omega
  | case4 => simp [sextets]

theorem ofNat_eq_of_eq {n : Nat} {a : UInt8} (h : n = a.toNat) : UInt8.ofNat n = a := by
  rw [h, UInt8.ofNat_toNat]

theorem ofSextets_sextets (bytes : Bytes) : ofSextets (sextets bytes) = some bytes := by
  induction bytes using sextets.induct with
  | case1 a b c rest ih =>
    have ha := a.toNat_lt
    have hb := b.toNat_lt
    have hc := c.toNat_lt
    rw [sextets, ofSextets, ih, Option.map_some, ofNat_eq_of_eq (a := a) (by omega),
      ofNat_eq_of_eq (a := b) (by omega), ofNat_eq_of_eq (a := c) (by omega)]
  | case2 a b =>
    have ha := a.toNat_lt
    have hb := b.toNat_lt
    rw [sextets, ofSextets, ofNat_eq_of_eq (a := a) (by omega),
      ofNat_eq_of_eq (a := b) (by omega)]
  | case3 a =>
    have ha := a.toNat_lt
    rw [sextets, ofSextets, ofNat_eq_of_eq (a := a) (by omega)]
  | case4 => rfl

theorem length_sextets (bytes : Bytes) :
    (sextets bytes).length = (bytes.length * 4 + 2) / 3 := by
  induction bytes using sextets.induct with
  | case1 a b c rest ih =>
    simp only [sextets, List.length_cons, ih]
    omega
  | case2 a b => simp [sextets]
  | case3 a => simp [sextets]
  | case4 => simp [sextets]

/-- An alphabet of 64 symbols, none of which is the padding or a line break. -/
structure Alphabet where
  digit : Nat → Char
  value : Char → Option Nat
  value_digit : ∀ n < 64, value (digit n) = some n
  value_pad : value '=' = none
  value_cr : value '\r' = none
  value_lf : value '\n' = none

def digitOf (c62 c63 : Char) (n : Nat) : Char :=
  if n < 26 then Char.ofNat (n + 65)
  else if n < 52 then Char.ofNat (n + 71)
  else if n < 62 then Char.ofNat (n - 4)
  else if n = 62 then c62
  else c63

def valueOf (c62 c63 : Char) (c : Char) : Option Nat :=
  if 65 ≤ c.toNat ∧ c.toNat ≤ 90 then some (c.toNat - 65)
  else if 97 ≤ c.toNat ∧ c.toNat ≤ 122 then some (c.toNat - 71)
  else if 48 ≤ c.toNat ∧ c.toNat ≤ 57 then some (c.toNat + 4)
  else if c = c62 then some 62
  else if c = c63 then some 63
  else none

/-- `base64.URLEncoding`. -/
def url : Alphabet where
  digit := digitOf '-' '_'
  value := valueOf '-' '_'
  value_digit := by decide
  value_pad := by decide
  value_cr := by decide
  value_lf := by decide

/-- `base64.StdEncoding`. -/
def std : Alphabet where
  digit := digitOf '+' '/'
  value := valueOf '+' '/'
  value_digit := by decide
  value_pad := by decide
  value_cr := by decide
  value_lf := by decide

/-- The decoders skip line breaks wherever they stand. -/
def isBreak (c : Char) : Bool := c = '\r' || c = '\n'

variable (alphabet : Alphabet)

/-- Encoding without padding. -/
def encodeRaw (bytes : Bytes) : List Char := (sextets bytes).map alphabet.digit

/-- Decoding of a text without padding. -/
def decodeRaw (text : List Char) : Option Bytes :=
  ((text.filter (!isBreak ·)).mapM alphabet.value).bind ofSextets

/-- Encoding with padding. -/
def encodePadded (bytes : Bytes) : List Char :=
  encodeRaw alphabet bytes ++ List.replicate ((3 - bytes.length % 3) % 3) '='

/-- Decoding of a text that is padded to a multiple of four symbols. -/
def decodePadded (text : List Char) : Option Bytes :=
  let text := text.filter (!isBreak ·)
  let digits := text.takeWhile (· ≠ '=')
  let padding := text.dropWhile (· ≠ '=')
  if padding = List.replicate ((4 - digits.length % 4) % 4) '=' then decodeRaw alphabet digits
  else none

variable {alphabet}

theorem digit_ne_pad {n : Nat} (hn : n < 64) : alphabet.digit n ≠ '=' := by
  intro h
  have hv := alphabet.value_digit n hn
  rw [h, alphabet.value_pad] at hv
  cases hv

theorem isBreak_digit {n : Nat} (hn : n < 64) : isBreak (alphabet.digit n) = false := by
  have hv := alphabet.value_digit n hn
  have hcr : alphabet.digit n ≠ '\r' := by
    intro h
    rw [h, alphabet.value_cr] at hv
    cases hv
  have hlf : alphabet.digit n ≠ '\n' := by
    intro h
    rw [h, alphabet.value_lf] at hv
    cases hv
  simp [isBreak, hcr, hlf]

theorem mapM_value_digits {groups : List Nat} (h : ∀ n ∈ groups, n < 64) :
    (groups.map alphabet.digit).mapM alphabet.value = some groups := by
  induction groups with
  | nil => rfl
  | cons n groups ih =>
    have hn : n < 64 := h n (by simp)
    have hrest := ih fun m hm => h m (by simp [hm])
    simp [alphabet.value_digit n hn, hrest]

theorem filter_digits {groups : List Nat} (h : ∀ n ∈ groups, n < 64) :
    (groups.map alphabet.digit).filter (!isBreak ·) = groups.map alphabet.digit := by
  apply List.filter_eq_self.mpr
  intro c hc
  obtain ⟨n, hn, rfl⟩ := List.mem_map.mp hc
  simp [isBreak_digit (h n hn)]

@[simp] theorem decodeRaw_encodeRaw (bytes : Bytes) :
    decodeRaw alphabet (encodeRaw alphabet bytes) = some bytes := by
  have hlt := sextets_lt bytes
  rw [decodeRaw, encodeRaw, filter_digits hlt, mapM_value_digits hlt, Option.bind_some,
    ofSextets_sextets]

@[simp] theorem decodePadded_encodePadded (bytes : Bytes) :
    decodePadded alphabet (encodePadded alphabet bytes) = some bytes := by
  have hlt := sextets_lt bytes
  have hdigits : ∀ c ∈ encodeRaw alphabet bytes, c ≠ '=' := by
    intro c hc
    obtain ⟨n, hn, rfl⟩ := List.mem_map.mp hc
    exact digit_ne_pad (hlt n hn)
  generalize hp : (3 - bytes.length % 3) % 3 = pads
  have hfilter : (encodePadded alphabet bytes).filter (!isBreak ·) =
      encodeRaw alphabet bytes ++ List.replicate pads '=' := by
    rw [encodePadded, hp, List.filter_append, encodeRaw, filter_digits hlt]
    congr 1
    apply List.filter_eq_self.mpr
    intro c hc
    rw [List.eq_of_mem_replicate hc]
    rfl
  have htake : (encodeRaw alphabet bytes ++ List.replicate pads '=').takeWhile (· ≠ '=') =
      encodeRaw alphabet bytes := by
    rw [List.takeWhile_append_of_pos (by simpa using hdigits)]
    cases pads <;> simp [List.replicate_succ]
  have hdrop : (encodeRaw alphabet bytes ++ List.replicate pads '=').dropWhile (· ≠ '=') =
      List.replicate pads '=' := by
    rw [List.dropWhile_append_of_pos (by simpa using hdigits)]
    cases pads <;> simp [List.replicate_succ]
  have hlen : (encodeRaw alphabet bytes).length = (bytes.length * 4 + 2) / 3 := by
    rw [encodeRaw, List.length_map, length_sextets]
  simp only [decodePadded]
  rw [hfilter, htake, hdrop, hlen, if_pos, decodeRaw_encodeRaw]
  congr 1
  have hrem : bytes.length % 3 < 3 := Nat.mod_lt _ (by decide)
  generalize hq : bytes.length / 3 = q
  generalize hr : bytes.length % 3 = r at hp hrem
  have hgroups : (bytes.length * 4 + 2) / 3 = 4 * q + (r * 4 + 2) / 3 := by omega
  rw [hgroups, ← hp]
  interval_cases r <;> omega

/-- An accepted text has only symbols of the alphabet and line breaks. -/
theorem mem_of_decodeRaw {text : List Char} {bytes : Bytes}
    (h : decodeRaw alphabet text = some bytes) {c : Char} (hc : c ∈ text) :
    (alphabet.value c).isSome = true ∨ isBreak c = true := by
  obtain ⟨groups, hg, -⟩ := Option.bind_eq_some_iff.mp h
  by_cases hb : isBreak c = true
  · exact .inr hb
  · have hmem : c ∈ text.filter (!isBreak ·) := List.mem_filter.mpr ⟨hc, by simpa using hb⟩
    left
    generalize text.filter (!isBreak ·) = text' at hg hmem
    induction text' generalizing groups with
    | nil => simp at hmem
    | cons d ds ih =>
      rw [List.mapM_cons] at hg
      obtain ⟨n, hn, hg⟩ := Option.bind_eq_some_iff.mp hg
      obtain ⟨ns, hns, -⟩ := Option.bind_eq_some_iff.mp hg
      rcases List.mem_cons.mp hmem with rfl | hmem
      · rw [hn]
        rfl
      · exact ih ns hns hmem

/-- `RawURLEncoding.EncodeToString`. -/
def rawURLEncode (bytes : Bytes) : String := String.ofList (encodeRaw url bytes)

/-- `RawURLEncoding.DecodeString`. -/
def rawURLDecode (text : String) : Option Bytes := decodeRaw url text.toList

@[simp] theorem rawURLDecode_rawURLEncode (bytes : Bytes) :
    rawURLDecode (rawURLEncode bytes) = some bytes := by
  simp [rawURLDecode, rawURLEncode]

theorem rawURLEncode_injective {b b' : Bytes} (h : rawURLEncode b = rawURLEncode b') : b = b' := by
  have hd := congrArg rawURLDecode h
  simpa using hd

theorem rawURLEncode_ne_empty {bytes : Bytes} (h : bytes ≠ []) : rawURLEncode bytes ≠ "" := by
  intro hempty
  have hnil : rawURLEncode ([] : Bytes) = "" := rfl
  exact h (rawURLEncode_injective (hempty.trans hnil.symm))

end Base64

end Meshd.Framework

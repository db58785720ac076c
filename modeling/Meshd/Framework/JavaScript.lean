import Meshd.Framework.Decimal
import Meshd.Framework.JsonText
import Mathlib.Data.List.TakeWhile

namespace Meshd.Framework.JavaScript

/-! Strings and 32-bit numbers of JavaScript. -/

/-! ### Strings -/

/-- A string: its code units, which need not be well-formed UTF-16. -/
abbrev Text := List UInt16

/-- The code units of a character. -/
def units (ch : Char) : Text :=
  if ch.toNat < 0x10000 then [UInt16.ofNat ch.toNat]
  else
    [UInt16.ofNat (0xD800 + (ch.toNat - 0x10000) / 1024),
      UInt16.ofNat (0xDC00 + (ch.toNat - 0x10000) % 1024)]

def ofString (s : String) : Text := s.toList.flatMap units

/-- Two halves that make up a character. -/
def IsPair (u v : UInt16) : Prop :=
  0xD800 ≤ u.toNat ∧ u.toNat < 0xDC00 ∧ 0xDC00 ≤ v.toNat ∧ v.toNat < 0xE000

instance (u v : UInt16) : Decidable (IsPair u v) := by unfold IsPair; infer_instance

/-- The characters of a string, where a half of a pair alone becomes the replacement character. -/
def chars : Text → List Char
  | [] => []
  | [u] => [JsonText.unitChar u.toNat]
  | u :: v :: rest =>
    if IsPair u v then
      Char.ofNat (0x10000 + (u.toNat - 0xD800) * 1024 + (v.toNat - 0xDC00)) :: chars rest
    else JsonText.unitChar u.toNat :: chars (v :: rest)

/-- `new TextEncoder().encode`. -/
def textEncode (text : Text) : Bytes := JsonText.utf8 (String.ofList (chars text))

theorem unitChar_toNat (ch : Char) : JsonText.unitChar ch.toNat = ch := by
  rw [JsonText.unitChar, JsonText.isSurrogate_toNat, if_neg (by decide), Char.ofNat_toNat]

theorem chars_units_append (ch : Char) (rest : Text) : chars (units ch ++ rest) = ch :: chars rest := by
  rw [units]
  split_ifs with hsmall
  · have hunit : (UInt16.ofNat ch.toNat).toNat = ch.toNat := UInt16.toNat_ofNat_of_lt' hsmall
    cases rest with
    | nil => simp only [List.append_nil, chars, hunit, unitChar_toNat]
    | cons v rest =>
      have hnot : ¬ IsPair (UInt16.ofNat ch.toNat) v := by
        have hsurrogate := JsonText.isSurrogate_toNat ch
        simp only [JsonText.isSurrogate, Bool.and_eq_false_iff, decide_eq_false_iff_not] at hsurrogate
        rw [IsPair, hunit]
        omega
      rw [List.singleton_append, chars, if_neg hnot, hunit, unitChar_toNat]
  · have hlt : ch.toNat < 0x110000 := by
      have hvalid : ch.toNat.isValidChar := ch.valid
      rcases hvalid with h | h
      · omega
      · exact h.2
    have hhigh : (UInt16.ofNat (0xD800 + (ch.toNat - 0x10000) / 1024)).toNat =
        0xD800 + (ch.toNat - 0x10000) / 1024 :=
      UInt16.toNat_ofNat_of_lt' (show _ < 65536 by omega)
    have hlow : (UInt16.ofNat (0xDC00 + (ch.toNat - 0x10000) % 1024)).toNat =
        0xDC00 + (ch.toNat - 0x10000) % 1024 :=
      UInt16.toNat_ofNat_of_lt' (show _ < 65536 by omega)
    have hpair : IsPair (UInt16.ofNat (0xD800 + (ch.toNat - 0x10000) / 1024))
        (UInt16.ofNat (0xDC00 + (ch.toNat - 0x10000) % 1024)) := by
      rw [IsPair, hhigh, hlow]
      omega
    have hcode : 0x10000 + (0xD800 + (ch.toNat - 0x10000) / 1024 - 0xD800) * 1024 +
        (0xDC00 + (ch.toNat - 0x10000) % 1024 - 0xDC00) = ch.toNat := by omega
    rw [List.cons_append, List.singleton_append, chars, if_pos hpair, hhigh, hlow, hcode,
      Char.ofNat_toNat]

/-- Well-formed text is encoded as its UTF-8 bytes. -/
theorem textEncode_ofString (s : String) : textEncode (ofString s) = JsonText.utf8 s := by
  have hchars : ∀ cs : List Char, chars (cs.flatMap units) = cs := by
    intro cs
    induction cs with
    | nil => rfl
    | cons ch cs ih => rw [List.flatMap_cons, chars_units_append, ih]
  rw [textEncode, ofString, hchars, String.ofList_toList]

/-- A text whose characters are one unit each. -/
theorem flatMap_units {cs : List Char} (h : ∀ c ∈ cs, c.toNat < 0x10000) :
    cs.flatMap units = cs.map fun c => UInt16.ofNat c.toNat := by
  induction cs with
  | nil => rfl
  | cons c cs ih =>
    rw [List.forall_mem_cons] at h
    rw [List.flatMap_cons, List.map_cons, ih h.2, units, if_pos h.1, List.singleton_append]

/-! ### Reading numbers -/

/-- The units that `parseInt` and `trim` skip. -/
def isWhiteSpace (code : Nat) : Bool :=
  decide (code ∈ [9, 10, 11, 12, 13, 32, 0xA0, 0x1680, 0x2028, 0x2029, 0x202F, 0x205F, 0x3000,
    0xFEFF] ∨ 0x2000 ≤ code ∧ code ≤ 0x200A)

def isDigit (u : UInt16) : Bool := decide (48 ≤ u.toNat ∧ u.toNat ≤ 57)

def digitsValue (digits : Text) : Nat := digits.foldl (fun n u => n * 10 + (u.toNat - 48)) 0

/-- `Number.parseInt(text, 10)`; `none` is NaN. What follows the digits is ignored. The exact value
stands for the double nearest to it. -/
def parseInt (text : Text) : Option Int :=
  let trimmed := text.dropWhile (isWhiteSpace ·.toNat)
  let negative := trimmed.head? = some 45
  let body := if negative ∨ trimmed.head? = some 43 then trimmed.tail else trimmed
  let digits := body.takeWhile isDigit
  if digits = [] then none
  else if negative then some (-digitsValue digits)
  else some (digitsValue digits)

theorem toNat_unit_digit {c : Char} (h : c.isDigit = true) :
    (UInt16.ofNat c.toNat).toNat = digitValue c + 48 := by
  have hle := digitValue_le h
  rw [toNat_eq_digitValue h]
  exact UInt16.toNat_ofNat_of_lt' (show _ < 65536 by omega)

theorem isDigit_unit {c : Char} (h : c.isDigit = true) :
    isDigit (UInt16.ofNat c.toNat) = true := by
  have hle := digitValue_le h
  rw [isDigit, toNat_unit_digit h]
  exact decide_eq_true (by omega)

theorem digitsValue_map {cs : List Char} (h : ∀ c ∈ cs, c.isDigit = true) :
    digitsValue (cs.map fun c => UInt16.ofNat c.toNat) = decimalValue cs := by
  have hfold : ∀ n, (cs.map fun c => UInt16.ofNat c.toNat).foldl
      (fun n u => n * 10 + (u.toNat - 48)) n = cs.foldl (fun n c => n * 10 + digitValue c) n := by
    induction cs with
    | nil => exact fun _ => rfl
    | cons c cs ih =>
      intro n
      rw [List.forall_mem_cons] at h
      rw [List.map_cons, List.foldl_cons, List.foldl_cons, toNat_unit_digit h.1,
        Nat.add_sub_cancel, ih h.2]
  rw [digitsValue, hfold, foldl_decimalValue]
  omega

/-- A run of digits is read as its value. -/
theorem parseInt_decimal {cs : List Char} (h : Decimal cs) :
    parseInt (cs.map fun c => UInt16.ofNat c.toNat) = some (decimalValue cs : Int) := by
  obtain ⟨hne, hdigits⟩ := h
  obtain ⟨c, rest, rfl⟩ := List.exists_cons_of_ne_nil hne
  have hc := toNat_unit_digit (hdigits c List.mem_cons_self)
  have hle := digitValue_le (hdigits c List.mem_cons_self)
  have hspace : isWhiteSpace (UInt16.ofNat c.toNat).toNat = false := by
    rw [isWhiteSpace, hc]
    refine decide_eq_false ?_
    simp only [List.mem_cons, List.not_mem_nil, or_false]
    omega
  have hsign : ∀ u : UInt16, u.toNat < 48 → some (UInt16.ofNat c.toNat) ≠ some u := by
    intro u hu heq
    rw [← Option.some.inj heq, hc] at hu
    omega
  have htake : ((c :: rest).map fun c => UInt16.ofNat c.toNat).takeWhile isDigit =
      (c :: rest).map fun c => UInt16.ofNat c.toNat := by
    rw [List.takeWhile_eq_self_iff]
    intro u hu
    obtain ⟨d, hd, rfl⟩ := List.mem_map.mp hu
    exact isDigit_unit (hdigits d hd)
  have htrim : ((c :: rest).map fun c => UInt16.ofNat c.toNat).dropWhile (isWhiteSpace ·.toNat) =
      (c :: rest).map fun c => UInt16.ofNat c.toNat := by
    exact List.dropWhile_cons_of_neg (by rw [hspace]; decide)
  have hhead : ((c :: rest).map fun c => UInt16.ofNat c.toNat).head? =
      some (UInt16.ofNat c.toNat) := rfl
  simp only [parseInt, htrim, hhead, hsign 45 (by decide), hsign 43 (by decide), or_self, if_false,
    htake, digitsValue_map hdigits]
  rw [if_neg (by simp)]

/-! ### 32-bit numbers -/

/-- The low 32 bits of an integer. -/
def word (x : Int) : BitVec 32 := BitVec.ofInt 32 x

/-- `x << n`, a signed number. -/
def shl (x : Int) (n : Nat) : Int := (word x <<< (n % 32)).toInt

/-- `x >>> n`, an unsigned number. -/
def ushr (x : Int) (n : Nat) : Int := ((word x >>> (n % 32)).toNat : Int)

/-- `x & y`, a signed number. -/
def band (x y : Int) : Int := (word x &&& word y).toInt

@[simp] theorem word_toInt (b : BitVec 32) : word b.toInt = b := BitVec.ofInt_toInt

@[simp] theorem word_natCast (n : Nat) : word (n : Int) = BitVec.ofNat 32 n := BitVec.ofInt_natCast 32 n

@[simp] theorem word_toNat (b : BitVec 32) : word (b.toNat : Int) = b := by simp

theorem ushr_zero (x : Int) : ushr x 0 = ((word x).toNat : Int) := by simp [ushr]

theorem ushr_natCast {n : Nat} (h : n < 2 ^ 32) (k : Nat) (hk : k < 32) :
    ushr (n : Int) k = ((n / 2 ^ k : Nat) : Int) := by
  rw [ushr, word_natCast, Nat.mod_eq_of_lt hk, BitVec.toNat_ushiftRight, BitVec.toNat_ofNat,
    Nat.mod_eq_of_lt h, Nat.shiftRight_eq_div_pow]

/-- A shift that loses no bits. -/
theorem toNat_word_shiftLeft {n k : Nat} (h : n * 2 ^ k < 2 ^ 32) :
    (word n <<< k).toNat = n * 2 ^ k := by
  have hn : n < 2 ^ 32 := lt_of_le_of_lt (Nat.le_mul_of_pos_right n (Nat.two_pow_pos k)) h
  rw [word_natCast, BitVec.toNat_shiftLeft, BitVec.toNat_ofNat, Nat.mod_eq_of_lt hn,
    Nat.shiftLeft_eq, Nat.mod_eq_of_lt h]

/-- A shift that does not reach the sign. -/
theorem shl_natCast {n k : Nat} (hk : k < 32) (h : n * 2 ^ k < 2 ^ 31) :
    shl n k = ((n * 2 ^ k : Nat) : Int) := by
  have hnat := toNat_word_shiftLeft (lt_trans h (by decide : 2 ^ 31 < 2 ^ 32))
  rw [shl, Nat.mod_eq_of_lt hk, BitVec.toInt_eq_toNat_of_lt (by rw [hnat]; omega), hnat]

end Meshd.Framework.JavaScript

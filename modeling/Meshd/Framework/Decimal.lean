import Mathlib.Algebra.Order.Ring.Nat
import Mathlib.Data.List.Basic

namespace Meshd.Framework

def digitValue (c : Char) : Nat := c.toNat - '0'.toNat

/-- The number a run of decimal digits stands for, most significant digit first. -/
def decimalValue : List Char → Nat
  | [] => 0
  | c :: cs => digitValue c * 10 ^ cs.length + decimalValue cs

/-- A non-empty run of decimal digits. -/
def Decimal (cs : List Char) : Prop := cs ≠ [] ∧ ∀ c ∈ cs, c.isDigit = true

instance (cs : List Char) : Decidable (Decimal cs) :=
  decidable_of_iff (cs ≠ [] ∧ cs.all Char.isDigit = true) (by simp [Decimal])

theorem isDigit_iff {c : Char} : c.isDigit = true ↔ '0' ≤ c ∧ c ≤ '9' := by
  simp only [Char.isDigit, Bool.and_eq_true, decide_eq_true_eq]
  exact Iff.rfl

theorem digitValue_le {c : Char} (h : c.isDigit = true) : digitValue c ≤ 9 := by
  have hc : c ≤ '9' := (isDigit_iff.mp h).2
  have hv : c.toNat ≤ '9'.toNat := hc
  have h0 : '0'.toNat = 48 := rfl
  have h9 : '9'.toNat = 57 := rfl
  simp only [digitValue]
  omega

theorem toNat_eq_digitValue {c : Char} (h : c.isDigit = true) : c.toNat = digitValue c + 48 := by
  have hc : '0' ≤ c := (isDigit_iff.mp h).1
  have hv : '0'.toNat ≤ c.toNat := hc
  have h0 : '0'.toNat = 48 := rfl
  simp only [digitValue]
  omega

theorem decimalValue_lt {cs : List Char} (h : ∀ c ∈ cs, c.isDigit = true) :
    decimalValue cs < 10 ^ cs.length := by
  induction cs with
  | nil => simp [decimalValue]
  | cons c cs ih =>
    have hc : digitValue c ≤ 9 := digitValue_le (h c (by simp))
    have hcs : decimalValue cs < 10 ^ cs.length := ih (fun d hd => h d (by simp [hd]))
    have hmul : digitValue c * 10 ^ cs.length ≤ 9 * 10 ^ cs.length := Nat.mul_le_mul_right _ hc
    simp only [decimalValue, List.length_cons, Nat.pow_succ]
    omega

/-- Reading digits from the left, each step shifts what has been read. -/
theorem foldl_decimalValue (cs : List Char) (n : Nat) :
    cs.foldl (fun n c => n * 10 + digitValue c) n = n * 10 ^ cs.length + decimalValue cs := by
  induction cs generalizing n with
  | nil => simp [decimalValue]
  | cons c cs ih =>
    have hshift : (n * 10 + digitValue c) * 10 ^ cs.length =
        n * 10 ^ (cs.length + 1) + digitValue c * 10 ^ cs.length := by
      rw [Nat.add_mul, Nat.mul_assoc, Nat.pow_succ, Nat.mul_comm 10]
    rw [List.foldl_cons, ih, hshift]
    simp only [decimalValue, List.length_cons]
    omega

/-- A digit other than zero in front of `cs`. -/
theorem le_decimalValue_cons {c : Char} {cs : List Char} (hc : c.isDigit = true) (h0 : c ≠ '0') :
    10 ^ cs.length ≤ decimalValue (c :: cs) := by
  have hpos : 1 ≤ digitValue c := by
    by_contra hzero
    have hnat : c.toNat = '0'.toNat := by
      rw [toNat_eq_digitValue hc]
      show digitValue c + 48 = 48
      omega
    exact h0 (Char.ext (UInt32.toNat_inj.mp hnat))
  have hmul : 1 * 10 ^ cs.length ≤ digitValue c * 10 ^ cs.length := Nat.mul_le_mul_right _ hpos
  simp only [decimalValue]
  omega

theorem decimalValue_dropZeros (cs : List Char) :
    decimalValue (cs.dropWhile (· == '0')) = decimalValue cs := by
  induction cs with
  | nil => rfl
  | cons c cs ih =>
    by_cases hc : c = '0'
    · subst hc
      have h0 : digitValue '0' = 0 := rfl
      rw [List.dropWhile_cons_of_pos (by rfl), ih, decimalValue, h0, Nat.zero_mul, Nat.zero_add]
    · rw [List.dropWhile_cons_of_neg (by simpa using hc)]

/-- The order of texts by their characters. -/
def lexLess : List Char → List Char → Bool
  | _, [] => false
  | [], _ :: _ => true
  | a :: as, b :: bs => decide (a.toNat < b.toNat) || (a == b && lexLess as bs)

theorem leading_lt_iff {w x y u v : Nat} (hu : u < w) (hv : v < w) :
    x * w + u < y * w + v ↔ x < y ∨ x = y ∧ u < v := by
  rcases Nat.lt_trichotomy x y with h | rfl | h
  · have hmul : (x + 1) * w ≤ y * w := Nat.mul_le_mul_right w h
    rw [Nat.add_mul] at hmul
    omega
  · omega
  · have hmul : (y + 1) * w ≤ x * w := Nat.mul_le_mul_right w h
    rw [Nat.add_mul] at hmul
    omega

/-- Numbers of as many digits are in the order of their texts. -/
theorem lexLess_iff {as bs : List Char} (hlen : as.length = bs.length)
    (ha : ∀ c ∈ as, c.isDigit = true) (hb : ∀ c ∈ bs, c.isDigit = true) :
    lexLess as bs = true ↔ decimalValue as < decimalValue bs := by
  induction as generalizing bs with
  | nil =>
    cases bs with
    | nil => simp [lexLess]
    | cons b bs => cases hlen
  | cons a as ih =>
    cases bs with
    | nil => cases hlen
    | cons b bs =>
      have hlen' : as.length = bs.length := Nat.succ.inj hlen
      have has : ∀ c ∈ as, c.isDigit = true := fun c hc => ha c (by simp [hc])
      have hbs : ∀ c ∈ bs, c.isDigit = true := fun c hc => hb c (by simp [hc])
      have hlt : decimalValue as < 10 ^ bs.length := hlen' ▸ decimalValue_lt has
      have hdigits : a.toNat < b.toNat ↔ digitValue a < digitValue b := by
        rw [toNat_eq_digitValue (ha a (by simp)), toNat_eq_digitValue (hb b (by simp))]
        omega
      have heq : a = b ↔ digitValue a = digitValue b := by
        refine ⟨fun h => h ▸ rfl, fun h => Char.ext (UInt32.toNat_inj.mp ?_)⟩
        have hab : a.toNat = b.toNat := by
          rw [toNat_eq_digitValue (ha a (by simp)), toNat_eq_digitValue (hb b (by simp)), h]
        exact hab
      simp only [lexLess, decimalValue, hlen', Bool.or_eq_true, Bool.and_eq_true, decide_eq_true_eq,
        beq_iff_eq]
      rw [ih hlen' has hbs, leading_lt_iff hlt (decimalValue_lt hbs), hdigits, heq]

end Meshd.Framework

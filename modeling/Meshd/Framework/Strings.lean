import Meshd.Framework.Bytes
import Meshd.Framework.Lines
import Mathlib.Data.List.Infix

namespace Meshd.Framework.Strings

/-! Go's `strings`, for separators that are one character. -/

/-- `HasPrefix`. -/
def hasPrefix (s pre : String) : Bool := pre.toList.isPrefixOf s.toList

def trimPrefix (s pre : String) : String :=
  if pre.toList.isPrefixOf s.toList then String.ofList (s.toList.drop pre.length) else s

def trimSuffix (s suf : String) : String :=
  if suf.toList.isSuffixOf s.toList then String.ofList (s.toList.take (s.length - suf.length)) else s

/-- `Split`, which always has a part. -/
def split (sep : Char) (s : String) : List String := (s.toList.splitOn sep).map String.ofList

/-- A text whose characters are bytes. -/
def ofBytes (bytes : Bytes) : String := String.ofList (ofLatin1 bytes)

theorem ofBytes_append (a b : Bytes) : ofBytes (a ++ b) = ofBytes a ++ ofBytes b := by
  simp [ofBytes, ofLatin1]

theorem hasPrefix_iff {s pre : String} : hasPrefix s pre = true ↔ ∃ rest, s = pre ++ rest := by
  rw [hasPrefix, List.isPrefixOf_iff_prefix]
  constructor
  · intro h
    obtain ⟨rest, hrest⟩ := h
    exact ⟨String.ofList rest, String.toList_inj.mp (by simp [← hrest])⟩
  · intro h
    obtain ⟨rest, rfl⟩ := h
    simp

@[simp] theorem trimPrefix_append (pre rest : String) : trimPrefix (pre ++ rest) pre = rest := by
  have hstart : pre.toList.isPrefixOf (pre ++ rest).toList = true := by
    rw [List.isPrefixOf_iff_prefix]
    simp
  rw [trimPrefix, if_pos hstart, String.toList_append, ← String.length_toList, List.drop_left,
    String.ofList_toList]

theorem trimPrefix_of_not {s pre : String} (h : hasPrefix s pre = false) : trimPrefix s pre = s := by
  rw [trimPrefix, if_neg]
  rw [hasPrefix] at h
  simp [h]

@[simp] theorem trimSuffix_append (front suf : String) : trimSuffix (front ++ suf) suf = front := by
  have hend : suf.toList.isSuffixOf (front ++ suf).toList = true := by
    rw [List.isSuffixOf_iff_suffix]
    simp
  have hlength : (front ++ suf).length - suf.length = front.toList.length := by
    simp [String.length_toList]
  rw [trimSuffix, if_pos hend, hlength, String.toList_append, List.take_left, String.ofList_toList]

/-! ### Numbers -/

theorem toString_inj {a b : Nat} (h : toString a = toString b) : a = b := by
  have hdigits : Nat.toDigits 10 a = Nat.toDigits 10 b := by
    rw [← Nat.toList_repr, ← Nat.toList_repr, ← Nat.toString_eq_repr, ← Nat.toString_eq_repr, h]
  have hvalue := congrArg (Nat.ofDigitChars 10 · 0) hdigits
  simpa only [Nat.ofDigitChars_ten_toDigits] using hvalue

theorem digit_of_mem_toString {n : Nat} {c : Char} (h : c ∈ (toString n).toList) :
    c.isDigit = true := by
  rw [Nat.toString_eq_repr, Nat.toList_repr] at h
  exact Nat.isDigit_of_mem_toDigits (by decide) (by decide) h

theorem not_mem_toString {n : Nat} {c : Char} (h : c.isDigit = false) : c ∉ (toString n).toList := by
  intro hc
  rw [digit_of_mem_toString hc] at h
  cases h

/-! ### Parts and separators -/

theorem split_intercalate (sep : Char) {texts : List String} (hne : texts ≠ [])
    (h : ∀ text ∈ texts, sep ∉ text.toList) :
    split sep ((String.singleton sep).intercalate texts) = texts := by
  have hfree : ∀ l ∈ texts.map String.toList, sep ∉ l := by
    intro l hl
    obtain ⟨text, htext, rfl⟩ := List.mem_map.mp hl
    exact h text htext
  rw [split, String.toList_intercalate, String.toList_singleton,
    List.splitOn_intercalate sep hfree (by simpa using hne), List.map_map]
  simp [Function.comp_def]

theorem mem_toList_intercalate (sep : Char) {c : Char} {texts : List String}
    (h : c ∈ ((String.singleton sep).intercalate texts).toList) :
    c = sep ∨ ∃ text ∈ texts, c ∈ text.toList := by
  rw [String.toList_intercalate, String.toList_singleton] at h
  obtain hsep | ⟨l, hl, hc⟩ := mem_intercalate h
  · exact .inl hsep
  · obtain ⟨text, htext, rfl⟩ := List.mem_map.mp hl
    exact .inr ⟨text, htext, hc⟩

/-- The bytes of a text whose characters are bytes. -/
theorem ofBytes_ascii {s : String} (h : ∀ c ∈ s.toList, c.toNat < 256) : ofBytes (ascii s) = s := by
  have hback : ofLatin1 (latin1 s.toList) = s.toList := by
    rw [ofLatin1, latin1, List.map_map]
    conv_rhs => rw [← List.map_id s.toList]
    apply List.map_congr_left
    intro c hc
    have hbyte : (UInt8.ofNat c.toNat).toNat = c.toNat := by
      rw [UInt8.toNat_ofNat']
      have := h c hc
      omega
    simp only [Function.comp, hbyte, Char.ofNat_toNat, id]
  rw [ofBytes, ascii, hback, String.ofList_toList]

end Meshd.Framework.Strings

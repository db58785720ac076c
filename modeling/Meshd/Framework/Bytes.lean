import Meshd.Framework.Base64

namespace Meshd.Framework

/-- A byte string of a fixed length. -/
abbrev Buffer (n : Nat) := { b : Bytes // b.length = n }

namespace Buffer

variable {m n : Nat}

/-- A new buffer with the bytes copied into it; what does not fit is left out. -/
def copy (n : Nat) (bytes : Bytes) : Buffer n :=
  ⟨(bytes ++ List.replicate n 0).take n, by simp⟩

theorem val_copy {bytes : Bytes} (h : bytes.length = n) : (copy n bytes).val = bytes := by
  simp [copy, ← h]

def append (a : Buffer m) (b : Buffer n) : Buffer (m + n) :=
  ⟨a.val ++ b.val, by rw [List.length_append, a.property, b.property]⟩

def high (b : Buffer (m + n)) : Buffer m := ⟨b.val.take m, by simp [b.property]⟩

def low (b : Buffer (m + n)) : Buffer n := ⟨b.val.drop m, by simp [b.property]⟩

@[simp] theorem high_append (a : Buffer m) (b : Buffer n) : (a.append b).high = a := by
  apply Subtype.ext
  exact List.take_left' a.property

@[simp] theorem low_append (a : Buffer m) (b : Buffer n) : (a.append b).low = b := by
  apply Subtype.ext
  exact List.drop_left' a.property

@[simp] theorem append_high_low (b : Buffer (m + n)) : b.high.append b.low = b :=
  Subtype.ext (List.take_append_drop m b.val)

/-- A buffer is its two parts. -/
def split (m n : Nat) : Buffer (m + n) ≃ Buffer m × Buffer n where
  toFun b := (b.high, b.low)
  invFun p := p.1.append p.2
  left_inv := append_high_low
  right_inv _ := Prod.ext (high_append _ _) (low_append _ _)

/-- The bytes in buffers of `n`, the first `count` of them. -/
def chunks (n : Nat) : Nat → Bytes → List (Buffer n)
  | 0, _ => []
  | count + 1, bytes => copy n (bytes.take n) :: chunks n count (bytes.drop n)

def concat (buffers : List (Buffer n)) : Bytes := buffers.flatMap (·.val)

@[simp] theorem length_chunks (count : Nat) (bytes : Bytes) :
    (chunks n count bytes).length = count := by
  induction count generalizing bytes with
  | zero => rfl
  | succ count ih => simp [chunks, ih]

@[simp] theorem length_concat (buffers : List (Buffer n)) :
    (concat buffers).length = n * buffers.length := by
  induction buffers with
  | nil => simp [concat]
  | cons b rest ih =>
    rw [concat, List.flatMap_cons, List.length_append, b.property, ← concat, ih,
      List.length_cons, Nat.mul_succ, Nat.add_comm]

theorem concat_chunks {count : Nat} {bytes : Bytes} (h : bytes.length = n * count) :
    concat (chunks n count bytes) = bytes := by
  induction count generalizing bytes with
  | zero =>
    have hnil : bytes = [] := List.eq_nil_of_length_eq_zero (by simpa using h)
    simp [hnil, chunks, concat]
  | succ count ih =>
    rw [Nat.mul_succ] at h
    have hfirst : (bytes.take n).length = n := by rw [List.length_take]; omega
    have hrest : (bytes.drop n).length = n * count := by rw [List.length_drop]; omega
    rw [chunks, concat, List.flatMap_cons, val_copy hfirst, ← concat, ih hrest,
      List.take_append_drop]

theorem chunks_concat (buffers : List (Buffer n)) :
    chunks n buffers.length (concat buffers) = buffers := by
  induction buffers with
  | nil => rfl
  | cons b rest ih =>
    have hsplit : concat (b :: rest) = b.val ++ concat rest := List.flatMap_cons
    have hcopy : copy n b.val = b := Subtype.ext (val_copy b.property)
    rw [List.length_cons, chunks, hsplit, List.take_left' b.property, List.drop_left' b.property,
      hcopy, ih]

end Buffer

/-- Bytewise exclusive or, as far as the shorter one goes. -/
def xorBytes (a b : Bytes) : Bytes := List.zipWith (· ^^^ ·) a b

@[simp] theorem length_xorBytes (a b : Bytes) :
    (xorBytes a b).length = min a.length b.length := List.length_zipWith

theorem xorBytes_xorBytes {a b : Bytes} (h : a.length ≤ b.length) :
    xorBytes (xorBytes a b) b = a := by
  induction a generalizing b with
  | nil => rfl
  | cons x a ih =>
    cases b with
    | nil => simp at h
    | cons y b =>
      have htail : xorBytes (xorBytes a b) b = a := ih (by simpa using h)
      simp only [xorBytes, List.zipWith_cons_cons] at htail ⊢
      rw [htail, UInt8.xor_assoc, UInt8.xor_self, UInt8.xor_zero]

/-- The low `width` bytes of a number, the highest first. -/
def bigEndian : Nat → Nat → Bytes
  | 0, _ => []
  | width + 1, v => bigEndian width (v / 256) ++ [UInt8.ofNat v]

@[simp] theorem length_bigEndian (width v : Nat) : (bigEndian width v).length = width := by
  induction width generalizing v with
  | zero => rfl
  | succ width ih => simp [bigEndian, ih]

/-- The value of a byte string, the highest byte first. -/
def ofBigEndian (bytes : Bytes) : Nat := bytes.foldl (fun v b => v * 256 + b.toNat) 0

theorem ofBigEndian_append_singleton (bytes : Bytes) (b : UInt8) :
    ofBigEndian (bytes ++ [b]) = ofBigEndian bytes * 256 + b.toNat := by
  simp [ofBigEndian]

theorem ofBigEndian_bigEndian {width v : Nat} (h : v < 256 ^ width) :
    ofBigEndian (bigEndian width v) = v := by
  induction width generalizing v with
  | zero =>
    have hv : v = 0 := by simpa using h
    rw [hv]
    rfl
  | succ width ih =>
    have hhigh : v / 256 < 256 ^ width := by
      rw [Nat.pow_succ] at h
      exact Nat.div_lt_of_lt_mul (by rwa [Nat.mul_comm])
    have hlow : (UInt8.ofNat v).toNat = v % 256 := UInt8.toNat_ofNat'
    rw [bigEndian, ofBigEndian_append_singleton, ih hhigh, hlow]
    omega

/-- The bytes of a text of characters below 256. -/
def latin1 (text : List Char) : Bytes := text.map fun ch => UInt8.ofNat ch.toNat

/-- A text with one character for each byte. -/
def ofLatin1 (bytes : Bytes) : List Char := bytes.map fun b => Char.ofNat b.toNat

/-- The bytes of an ASCII text. -/
def ascii (text : String) : Bytes := latin1 text.toList

namespace Base64

/-- `RawURLEncoding.EncodeToString` with the text as bytes. -/
def encodeBytes (bytes : Bytes) : Bytes := latin1 (encodeRaw url bytes)

/-- `RawURLEncoding.DecodeString` of a text of any bytes. -/
def decodeBytes (text : Bytes) : Option Bytes := decodeRaw url (ofLatin1 text)

theorem ofLatin1_latin1_digit :
    ∀ n < 64, Char.ofNat (UInt8.ofNat (url.digit n).toNat).toNat = url.digit n := by decide

@[simp] theorem decodeBytes_encodeBytes (bytes : Bytes) :
    decodeBytes (encodeBytes bytes) = some bytes := by
  have htext : ofLatin1 (encodeBytes bytes) = encodeRaw url bytes := by
    simp only [ofLatin1, encodeBytes, latin1, encodeRaw, List.map_map]
    apply List.map_congr_left
    intro n hn
    exact ofLatin1_latin1_digit n (sextets_lt bytes n hn)
  rw [decodeBytes, htext, decodeRaw_encodeRaw]

/-- An accepted text has no padding. -/
theorem pad_not_mem_of_decodeBytes {text bytes : Bytes} (h : decodeBytes text = some bytes) :
    61 ∉ text := by
  intro hmem
  have hc : '=' ∈ ofLatin1 text := List.mem_map_of_mem (f := fun b => Char.ofNat b.toNat) hmem
  obtain hvalue | hbreak := mem_of_decodeRaw h hc
  · rw [url.value_pad] at hvalue
    cases hvalue
  · cases hbreak

end Base64

def hexDigit (n : Nat) : Char := "0123456789abcdef".toList.getD n '0'

/-- `hex.EncodeToString`. -/
def hexEncode (bytes : Bytes) : String :=
  String.ofList (bytes.flatMap fun b => [hexDigit (b.toNat / 16), hexDigit (b.toNat % 16)])

end Meshd.Framework

import Meshd.Framework.Bytes
import Meshd.Framework.Fallible

namespace Meshd.Framework.Secp256k1

/-! Public keys of the curve `y² = x³ + 7`, as byte strings. -/

def fieldPrime : Nat := 2 ^ 256 - 2 ^ 32 - 977

/-- `base ^ e` in the field, bit by bit of the exponent. -/
def power (base : Nat) (e : Nat) : Nat :=
  if e = 0 then 1
  else
    let root := power base (e / 2)
    let square := root * root % fieldPrime
    if e % 2 = 1 then square * base % fieldPrime else square

def isOnCurve (x y : Nat) : Bool := y * y % fieldPrime = (x * x * x + 7) % fieldPrime

/-- The root of `x³ + 7` of that parity; the prime is 3 modulo 4. -/
def decompressY (x : Nat) (odd : Bool) : Option Nat :=
  let x3PlusB := (x * x * x + 7) % fieldPrime
  let y := power x3PlusB ((fieldPrime + 1) / 4)
  if y * y % fieldPrime ≠ x3PlusB then none
  else if decide (y % 2 = 1) ≠ odd then some ((fieldPrime - y) % fieldPrime)
  else some y

/-- `X().Bytes()` and `Y().Bytes()` have no leading zeros. -/
def stripZeros (coordinate : Bytes) : Bytes := coordinate.dropWhile (· == 0)

def unsupportedFormat (format : UInt8) : String :=
  "invalid public key: unsupported format: " ++ String.ofList (Nat.toDigits 16 format.toNat)

/-- `ParsePubKey`; the key is given by its coordinates. -/
def parsePubKey (serialized : Bytes) : Except String (Bytes × Bytes) :=
  let format := serialized.headD 0
  let x := (serialized.drop 1).take 32
  let y := serialized.drop 33
  if serialized.length = 65 then
    if format ≠ 4 ∧ format ≠ 6 ∧ format ≠ 7 then .error (unsupportedFormat format)
    else if ofBigEndian x ≥ fieldPrime then .error "invalid public key: x >= field prime"
    else if ofBigEndian y ≥ fieldPrime then .error "invalid public key: y >= field prime"
    else if format ≠ 4 ∧ decide (ofBigEndian y % 2 = 1) ≠ decide (format = 7) then
      .error ("invalid public key: y oddness does not match specified value of " ++
        if format = 7 then "true" else "false")
    else if isOnCurve (ofBigEndian x) (ofBigEndian y) = false then
      .error ("invalid public key: [" ++ hexEncode x ++ "," ++ hexEncode y ++
        "] not on secp256k1 curve")
    else .ok (stripZeros x, stripZeros y)
  else if serialized.length = 33 then
    if format ≠ 2 ∧ format ≠ 3 then .error (unsupportedFormat format)
    else if ofBigEndian x ≥ fieldPrime then .error "invalid public key: x >= field prime"
    else
      match decompressY (ofBigEndian x) (format = 3) with
      | none =>
        .error ("invalid public key: x coordinate " ++ hexEncode x ++
          " is not on the secp256k1 curve")
      | some y => .ok (stripZeros x, stripZeros (bigEndian 32 y))
  else .error ("malformed public key: invalid length: " ++ toString serialized.length)

/-- A coordinate as 32 bytes. -/
def pad32 (coordinate : Bytes) : Bytes := List.replicate (32 - coordinate.length) 0 ++ coordinate

/-- `SerializeUncompressed` of the point with these coordinates. -/
def serializeUncompressed (key : Bytes × Bytes) : Bytes := 4 :: (pad32 key.1 ++ pad32 key.2)

/-- An uncompressed key is its coordinates, 32 bytes each. -/
theorem parsePubKey_uncompressed {rest : Bytes} {key : Bytes × Bytes}
    (h : parsePubKey (4 :: rest) = .ok key) :
    rest.length = 64 ∧ key = (stripZeros (rest.take 32), stripZeros (rest.drop 32)) := by
  rw [parsePubKey] at h
  split at h
  · next hlength =>
    simp only [List.length_cons, Nat.reduceEqDiff] at hlength
    simp only [ite_error_eq_ok] at h
    obtain ⟨-, -, -, -, -, h⟩ := h
    cases h
    exact ⟨hlength, rfl⟩
  · split at h
    · -- a compressed key begins with 2 or 3
      rw [if_pos (by simp)] at h
      cases h
    · cases h

/-! ### Coordinates in 32 bytes -/

theorem length_stripZeros_le (b : Bytes) : (stripZeros b).length ≤ b.length :=
  (List.dropWhile_suffix _).length_le

theorem replicate_append_stripZeros (b : Bytes) :
    List.replicate (b.length - (stripZeros b).length) 0 ++ stripZeros b = b := by
  induction b with
  | nil => rfl
  | cons c b ih =>
    by_cases hc : c = 0
    · subst hc
      have hstrip : stripZeros (0 :: b) = stripZeros b := rfl
      have hle := length_stripZeros_le b
      rw [hstrip, List.length_cons, Nat.succ_sub hle, List.replicate_succ, List.cons_append, ih]
    · have hstrip : stripZeros (c :: b) = c :: b := List.dropWhile_cons_of_neg (by simpa using hc)
      rw [hstrip, Nat.sub_self]
      rfl

theorem pad32_stripZeros {b : Bytes} (h : b.length = 32) : pad32 (stripZeros b) = b := by
  have hback := replicate_append_stripZeros b
  rwa [h] at hback

theorem serializeUncompressed_parsePubKey {rest : Bytes} {key : Bytes × Bytes}
    (h : parsePubKey (4 :: rest) = .ok key) : serializeUncompressed key = 4 :: rest := by
  obtain ⟨hlength, rfl⟩ := parsePubKey_uncompressed h
  have hx : (rest.take 32).length = 32 := by rw [List.length_take]; omega
  have hy : (rest.drop 32).length = 32 := by rw [List.length_drop]; omega
  rw [serializeUncompressed, pad32_stripZeros hx, pad32_stripZeros hy, List.take_append_drop]

theorem length_coordinates {rest : Bytes} {key : Bytes × Bytes}
    (h : parsePubKey (4 :: rest) = .ok key) :
    rest.length = 64 ∧ key.1.length ≤ 32 ∧ key.2.length ≤ 32 := by
  obtain ⟨hlength, rfl⟩ := parsePubKey_uncompressed h
  have hx := length_stripZeros_le (rest.take 32)
  have hy := length_stripZeros_le (rest.drop 32)
  rw [List.length_take] at hx
  rw [List.length_drop] at hy
  simp only
  omega

theorem stripZeros_eq_self_iff {b : Bytes} : stripZeros b = b ↔ b.head? ≠ some 0 := by
  cases b with
  | nil => simp [stripZeros]
  | cons c b =>
    by_cases hc : c = 0
    · subst hc
      have hle := length_stripZeros_le b
      have hne : stripZeros (0 :: b) ≠ 0 :: b := by
        intro h
        have hlength := congrArg List.length h
        have hstrip : stripZeros (0 :: b) = stripZeros b := rfl
        rw [hstrip, List.length_cons] at hlength
        omega
      simpa using hne
    · have hstrip : stripZeros (c :: b) = c :: b := List.dropWhile_cons_of_neg (by simpa using hc)
      simp [hstrip, hc]

/-- The coordinates of an uncompressed key, written without leading zeros, are the key again exactly
where they have none; otherwise they are no key. -/
theorem parsePubKey_stripped {rest : Bytes} {key : Bytes × Bytes}
    (h : parsePubKey (4 :: rest) = .ok key) :
    (key.1 ++ key.2 = rest ↔ rest.head? ≠ some 0 ∧ (rest.drop 32).head? ≠ some 0) ∧
      ∀ key', parsePubKey (4 :: (key.1 ++ key.2)) = .ok key' → key.1 ++ key.2 = rest := by
  obtain ⟨hlength, rfl⟩ := parsePubKey_uncompressed h
  have hx : (rest.take 32).length = 32 := by rw [List.length_take]; omega
  have hy : (rest.drop 32).length = 32 := by rw [List.length_drop]; omega
  have hxle := length_stripZeros_le (rest.take 32)
  have hyle := length_stripZeros_le (rest.drop 32)
  have hhead : rest.head? = (rest.take 32).head? := by rw [List.head?_take, if_neg (by decide)]
  have hwhole (hsize : (stripZeros (rest.take 32) ++ stripZeros (rest.drop 32)).length = 64) :
      stripZeros (rest.take 32) = rest.take 32 ∧ stripZeros (rest.drop 32) = rest.drop 32 := by
    rw [List.length_append] at hsize
    exact ⟨(List.dropWhile_suffix _).eq_of_length (by rw [← stripZeros]; omega),
      (List.dropWhile_suffix _).eq_of_length (by rw [← stripZeros]; omega)⟩
  rw [hhead, ← stripZeros_eq_self_iff, ← stripZeros_eq_self_iff]
  refine ⟨⟨fun heq => hwhole (by rw [heq, hlength]), fun ⟨hxs, hys⟩ => ?_⟩, fun key' hkey' => ?_⟩
  · simp only [hxs, hys, List.take_append_drop]
  · obtain ⟨hsize, -⟩ := parsePubKey_uncompressed hkey'
    obtain ⟨hxs, hys⟩ := hwhole hsize
    simp only [hxs, hys, List.take_append_drop]

end Meshd.Framework.Secp256k1

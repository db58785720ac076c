import Meshd.Framework.Base64

namespace Meshd.Framework.Zbase32

def alphabet : List Char := "ybndrfg8ejkmcpqxot1uwisza345h769".toList

/-- The five bytes of eight digits. -/
def quantum (d : Nat → Nat) : Bytes :=
  [UInt8.ofNat (d 0 * 8 + d 1 / 4), UInt8.ofNat (d 1 * 64 + d 2 * 2 + d 3 / 16),
    UInt8.ofNat (d 3 * 16 + d 4 / 2), UInt8.ofNat (d 4 * 128 + d 5 * 4 + d 6 / 8),
    UInt8.ofNat (d 6 * 32 + d 7)]

/-- How many bytes a number of digits holds; what is left of the last byte is read as zero bits. -/
def quantumLen (j : Nat) : Nat := [0, 1, 1, 2, 2, 3, 4, 4, 5].getD j 5

/-- The bytes of a list of digits, eight digits at a time. -/
def ofDigits : List Nat → Bytes
  | a :: b :: c :: d :: e :: f :: g :: h :: rest =>
    quantum ([a, b, c, d, e, f, g, h].getD · 0) ++ ofDigits rest
  | digits => (quantum (digits.getD · 0)).take (quantumLen digits.length)

/-- `DecodeString`, without the position of the illegal character in the error. -/
def decodeString (s : String) : Option Bytes :=
  if s.toList.all (· ∈ alphabet) then some (ofDigits (s.toList.map alphabet.idxOf)) else none

theorem mem_alphabet_of_decodeString {s : String} {bytes : Bytes} (h : decodeString s = some bytes) :
    ∀ ch ∈ s.toList, ch ∈ alphabet := by
  rw [decodeString, Option.ite_none_right_eq_some] at h
  simpa using h.1

end Meshd.Framework.Zbase32

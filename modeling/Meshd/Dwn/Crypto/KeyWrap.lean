import Meshd.Dwn.Crypto.Primitives
import Meshd.Framework.Bytes
import Meshd.Framework.Fallible
import Meshd.Framework.Passes

namespace Meshd.Dwn.Crypto

open Meshd.Framework

variable (c : Primitives)

/-- `aes.NewCipher`. -/
def newCipher (key : Bytes) : Except String (Equiv.Perm Block) :=
  if key.length = 16 ∨ key.length = 24 ∨ key.length = 32 then .ok (c.aes key)
  else .error ("crypto/aes: invalid key size " ++ toString key.length)

def aesKeyWrapDefaultIV : Buffer 8 := ⟨List.replicate 8 0xA6, rfl⟩

def xorUint64 (b : Buffer 8) (v : Nat) : Buffer 8 :=
  ⟨xorBytes b.val (bigEndian 8 v), by simp [b.property]⟩

@[simp] theorem xorUint64_xorUint64 (b : Buffer 8) (v : Nat) :
    xorUint64 (xorUint64 b v) v = b := by
  apply Subtype.ext
  apply xorBytes_xorBytes
  simp [b.property]

/-- The bodies of the two inner loops: `A` and one register before and after. The counter of the
source starts at one. -/
def wrapStep (block : Equiv.Perm Block) (t : Nat) : Equiv.Perm (Buffer 8 × Buffer 8) where
  toFun s :=
    let b := block (s.1.append s.2)
    (xorUint64 (Buffer.high (m := 8) (n := 8) b) (t + 1), Buffer.low (m := 8) (n := 8) b)
  invFun s :=
    let b := block.symm ((xorUint64 s.1 (t + 1)).append s.2)
    (Buffer.high (m := 8) (n := 8) b, Buffer.low (m := 8) (n := 8) b)
  left_inv s := by
    dsimp only
    rw [xorUint64_xorUint64, Buffer.append_high_low, Equiv.symm_apply_apply, Buffer.high_append,
      Buffer.low_append]
  right_inv s := by
    dsimp only
    rw [Buffer.append_high_low, Equiv.apply_symm_apply, Buffer.high_append, Buffer.low_append,
      xorUint64_xorUint64]

def aesKeyWrap (kek plaintext : Bytes) : Except String Bytes :=
  if plaintext.length % 8 ≠ 0 then
    .error ("plaintext must be a multiple of 8 bytes, got " ++ toString plaintext.length)
  else
    let n := plaintext.length / 8
    if n < 1 then .error "plaintext too short"
    else do
      let block ← (newCipher c kek).mapError ("creating AES cipher: " ++ ·)
      let s := passes (wrapStep block) 6 n (aesKeyWrapDefaultIV, Buffer.chunks 8 n plaintext)
      return s.1.val ++ Buffer.concat s.2

def aesKeyUnwrap (kek ciphertext : Bytes) : Except String Bytes :=
  if ciphertext.length % 8 ≠ 0 then
    .error ("ciphertext must be a multiple of 8 bytes, got " ++ toString ciphertext.length)
  else if ciphertext.length < 24 then
    .error ("ciphertext too short: " ++ toString ciphertext.length ++ " bytes")
  else
    let n := ciphertext.length / 8 - 1
    do
      let block ← (newCipher c kek).mapError ("creating AES cipher: " ++ ·)
      let s := unpasses (wrapStep block) 6 n
        (Buffer.copy 8 (ciphertext.take 8), Buffer.chunks 8 n (ciphertext.drop 8))
      if s.1 ≠ aesKeyWrapDefaultIV then .error "AES Key Unwrap integrity check failed"
      else return Buffer.concat s.2

variable {c}

theorem newCipher_ok {key : Bytes} (h : key.length = 32) : newCipher c key = .ok (c.aes key) := by
  simp [newCipher, h]

/-- What `aesKeyWrap` puts out. -/
theorem aesKeyWrap_eq_ok {kek plaintext wrapped : Bytes}
    (h : aesKeyWrap c kek plaintext = .ok wrapped) :
    plaintext.length = 8 * (plaintext.length / 8) ∧ 1 ≤ plaintext.length / 8 ∧
      ∃ block, newCipher c kek = .ok block ∧
        ∃ s, s = passes (wrapStep block) 6 (plaintext.length / 8)
            (aesKeyWrapDefaultIV, Buffer.chunks 8 (plaintext.length / 8) plaintext) ∧
          wrapped = s.1.val ++ Buffer.concat s.2 := by
  simp only [aesKeyWrap] at h
  split_ifs at h with hmod hn
  rw [bind_eq_ok] at h
  obtain ⟨block, hblock, h⟩ := h
  refine ⟨by omega, by omega, block, mapError_eq_ok.mp hblock, _, rfl, ?_⟩
  exact (Except.ok.inj h).symm

/-- A key of at least 16 bytes comes back from its wrapping. -/
theorem aesKeyUnwrap_aesKeyWrap {kek plaintext wrapped : Bytes}
    (h : aesKeyWrap c kek plaintext = .ok wrapped) (hlen : 16 ≤ plaintext.length) :
    aesKeyUnwrap c kek wrapped = .ok plaintext := by
  obtain ⟨hmul, -, block, hblock, s, hs, rfl⟩ := aesKeyWrap_eq_ok h
  have hrow : s.2.length = plaintext.length / 8 := by
    rw [hs, length_passes, Buffer.length_chunks]
  have hwrapped : (s.1.val ++ Buffer.concat s.2).length = 8 + 8 * (plaintext.length / 8) := by
    rw [List.length_append, Buffer.length_concat, s.1.property, hrow]
  have hn : (s.1.val ++ Buffer.concat s.2).length / 8 - 1 = plaintext.length / 8 := by
    rw [hwrapped]
    omega
  have hA : Buffer.copy 8 ((s.1.val ++ Buffer.concat s.2).take 8) = s.1 := by
    apply Subtype.ext
    rw [List.take_left' s.1.property, Buffer.val_copy s.1.property]
  have hR : Buffer.chunks 8 (plaintext.length / 8) ((s.1.val ++ Buffer.concat s.2).drop 8) = s.2 := by
    rw [List.drop_left' s.1.property, ← hrow, Buffer.chunks_concat]
  rw [aesKeyUnwrap, if_neg (by omega), if_neg (by omega)]
  dsimp only
  rw [hblock, mapError_ok, ok_bind, hn, hA, hR, Prod.eta, hs, unpasses_passes,
    if_neg (not_not.mpr rfl), Buffer.concat_chunks hmul]
  rfl

/-- What `aesKeyUnwrap` accepts and puts out. -/
theorem aesKeyUnwrap_eq_ok {kek ciphertext plaintext : Bytes}
    (h : aesKeyUnwrap c kek ciphertext = .ok plaintext) :
    ciphertext.length = 8 + 8 * (ciphertext.length / 8 - 1) ∧ 24 ≤ ciphertext.length ∧
      ∃ block, newCipher c kek = .ok block ∧
        ∃ s, s = unpasses (wrapStep block) 6 (ciphertext.length / 8 - 1)
            (Buffer.copy 8 (ciphertext.take 8),
              Buffer.chunks 8 (ciphertext.length / 8 - 1) (ciphertext.drop 8)) ∧
          s.1 = aesKeyWrapDefaultIV ∧ plaintext = Buffer.concat s.2 := by
  simp only [aesKeyUnwrap] at h
  split_ifs at h with hmod hshort
  rw [bind_eq_ok] at h
  obtain ⟨block, hblock, h⟩ := h
  split_ifs at h with hIV
  refine ⟨by omega, by omega, block, mapError_eq_ok.mp hblock, _, rfl, not_not.mp hIV, ?_⟩
  exact (Except.ok.inj h).symm

/-- An unwrapped key has at least 16 bytes, and wrapping it gives the ciphertext again. -/
theorem aesKeyWrap_aesKeyUnwrap {kek ciphertext plaintext : Bytes}
    (h : aesKeyUnwrap c kek ciphertext = .ok plaintext) :
    16 ≤ plaintext.length ∧ aesKeyWrap c kek plaintext = .ok ciphertext := by
  obtain ⟨hmul, hlong, block, hblock, s, hs, hIV, rfl⟩ := aesKeyUnwrap_eq_ok h
  have hrow : s.2.length = ciphertext.length / 8 - 1 := by
    rw [hs, length_unpasses, Buffer.length_chunks]
  have hlen : (Buffer.concat s.2).length = 8 * (ciphertext.length / 8 - 1) := by
    rw [Buffer.length_concat, hrow]
  have hn : (Buffer.concat s.2).length / 8 = ciphertext.length / 8 - 1 := by
    rw [hlen]
    omega
  have hR : Buffer.chunks 8 (ciphertext.length / 8 - 1) (Buffer.concat s.2) = s.2 := by
    rw [← hrow, Buffer.chunks_concat]
  have hstart : (aesKeyWrapDefaultIV, s.2) = s := by rw [← hIV]
  have htake : (ciphertext.take 8).length = 8 := by rw [List.length_take]; omega
  have hdrop : (ciphertext.drop 8).length = 8 * (ciphertext.length / 8 - 1) := by
    rw [List.length_drop]; omega
  refine ⟨by omega, ?_⟩
  rw [aesKeyWrap, if_neg (by omega)]
  dsimp only
  rw [hn, if_neg (by omega), hblock, mapError_ok, ok_bind, hR, hstart, hs, passes_unpasses,
    Buffer.val_copy htake, Buffer.concat_chunks hdrop, List.take_append_drop]
  rfl

variable (c) in
/-- Wrapping and unwrapping undo each other, but for keys of 8 bytes: these are wrapped, and their
ciphertexts are not accepted. -/
theorem keyWrap_invertible (kek : Bytes) :
    (∀ plaintext wrapped, aesKeyWrap c kek plaintext = .ok wrapped →
      (aesKeyUnwrap c kek wrapped = .ok plaintext ↔ 16 ≤ plaintext.length)) ∧
    (∀ ciphertext plaintext, aesKeyUnwrap c kek ciphertext = .ok plaintext →
      aesKeyWrap c kek plaintext = .ok ciphertext) ∧
    ∀ ciphertext, (∃ plaintext, aesKeyUnwrap c kek ciphertext = .ok plaintext) ↔
      ∃ plaintext, 16 ≤ plaintext.length ∧ aesKeyWrap c kek plaintext = .ok ciphertext := by
  refine ⟨fun plaintext wrapped hwrap => ⟨fun hunwrap => ?_, aesKeyUnwrap_aesKeyWrap hwrap⟩,
    fun ciphertext plaintext hunwrap => (aesKeyWrap_aesKeyUnwrap hunwrap).2,
    fun ciphertext => ⟨?_, ?_⟩⟩
  · exact (aesKeyWrap_aesKeyUnwrap hunwrap).1
  · rintro ⟨plaintext, hunwrap⟩
    exact ⟨plaintext, aesKeyWrap_aesKeyUnwrap hunwrap⟩
  · rintro ⟨plaintext, hlen, hwrap⟩
    exact ⟨plaintext, aesKeyUnwrap_aesKeyWrap hwrap hlen⟩

/-- With the identity for AES: a key of 8 bytes is wrapped and does not come back. -/
theorem keyWrap_eight_bytes :
    ∃ wrapped, aesKeyWrap .transparent (List.replicate 32 1) (List.replicate 8 7) = .ok wrapped ∧
      aesKeyUnwrap .transparent (List.replicate 32 1) wrapped =
        .error "ciphertext too short: 16 bytes" := by
  refine ⟨_, rfl, ?_⟩
  decide +kernel

end Meshd.Dwn.Crypto

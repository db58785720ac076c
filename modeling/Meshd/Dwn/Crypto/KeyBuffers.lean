import Meshd.Dwn.Crypto.Subtree
import Meshd.Framework.Buffers

namespace Meshd.Dwn.Crypto

open Meshd.Framework

/-! Key derivation on the buffers that hold the keys. -/

variable (c : Primitives)

def hkdfDerive (h : Buffers) (inputKey : Nat) (info : String) : Nat × Buffers :=
  (h.next, h.alloc (c.hkdf (h.cell inputKey) info))

/-- The loop of `DeriveKeyBytes`: the key in hand is zeroed once the next one is derived. -/
def deriveSegments (h : Buffers) (currentKey : Nat) : List String → Nat × Buffers
  | [] => (currentKey, h)
  | segment :: rest =>
    let (derived, h) := hkdfDerive c h currentKey segment
    deriveSegments (h.clear currentKey) derived rest

def deriveKeyBytesIn (h : Buffers) (ancestorKey : Nat) (derivationPath : List String) :
    Except String (Nat × Buffers) := do
  validateDerivationPath derivationPath
  return deriveSegments c (h.copy ancestorKey) h.next derivationPath

/-- `DeriveLeafKey` of a decrypter whose key is in the buffer `privateKey`. -/
def SubtreeDecrypter.deriveLeafKeyIn (d : SubtreeDecrypter) (h : Buffers) (privateKey : Nat)
    (protocol protocolPath : String) : Except String (Nat × Buffers) :=
  let full := buildProtocolPathDerivation protocol (splitProtocolPath protocolPath)
  match d.remainingSegments full with
  | none => .error ("delivered subtree key at " ++ printTexts d.derivationPath ++
      " does not cover derivation path " ++ printTexts full)
  | some [] => .ok (h.next, h.copy privateKey)
  | some remaining => deriveKeyBytesIn c h privateKey remaining

/-- `Decrypt`, which zeroes the leaf key when it is done with it. -/
def SubtreeDecrypter.decryptIn (d : SubtreeDecrypter) (h : Buffers) (privateKey : Nat)
    (ciphertext : Bytes) (enc : Option Encryption) (protocol protocolPath : String) :
    Except String Bytes × Buffers :=
  match d.deriveLeafKeyIn c h privateKey protocol protocolPath with
  | .error e => (.error e, h)
  | .ok (leaf, h) => (decryptData c ciphertext enc (h.cell leaf), h.clear leaf)

/-- A function has left its result in a buffer of its own, with every buffer of its caller as it was
and every other buffer it took zeroed. -/
structure Fresh (h : Buffers) (key : Bytes) (result : Nat × Buffers) : Prop where
  new : h.next ≤ result.1
  cell : result.2.cell result.1 = key
  kept : Heap.Extends (· < h.next) h result.2
  wiped : ∀ p, h.next ≤ p → p < result.2.next → p ≠ result.1 → result.2.Wiped p

variable {c} {h : Buffers}

/-- One turn of the loop: the key in hand gives way to the derived one. -/
theorem Fresh.segment {h₀ : Buffers} {key : Bytes} {currentKey : Nat}
    (hf : Fresh h₀ key (currentKey, h)) (hlt : currentKey < h.next) (segment : String) :
    Fresh h₀ (c.hkdf key segment)
      ((hkdfDerive c h currentKey segment).1,
        (hkdfDerive c h currentKey segment).2.clear currentKey) := by
  have hne : h.next ≠ currentKey := (Nat.ne_of_lt hlt).symm
  refine ⟨hf.kept.next_le, ?_, ?_, ?_⟩
  · change (Buffers.clear (h.alloc _) currentKey).cell h.next = _
    rw [Buffers.clear_cell_of_ne hne, Heap.alloc_cell_self, hf.cell]
  · refine (hf.kept.alloc (fun _ hp => hp) _).set ?_ _
    exact not_lt.mpr hf.new
  · intro p hnew hp hother
    have hp : p < h.next := lt_of_le_of_ne (Nat.le_of_lt_succ hp) hother
    by_cases hcur : p = currentKey
    · subst hcur
      exact Buffers.wiped_clear
    · intro b hb
      change b ∈ (Buffers.clear (h.alloc _) currentKey).cell p at hb
      rw [Buffers.clear_cell_of_ne hcur, Heap.alloc_cell_of_lt _ _ hp] at hb
      exact hf.wiped p hnew hp hcur b hb

theorem fresh_deriveSegments {h₀ : Buffers} {key : Bytes} {currentKey : Nat}
    (hf : Fresh h₀ key (currentKey, h)) (hlt : currentKey < h.next) (path : List String) :
    Fresh h₀ (path.foldl c.hkdf key) (deriveSegments c h currentKey path) := by
  induction path generalizing h currentKey key with
  | nil => exact hf
  | cons segment rest ih =>
    exact ih (hf.segment hlt segment) (Nat.lt_succ_self h.next)

theorem fresh_copy {p : Nat} : Fresh h (h.cell p) (h.next, h.copy p) where
  new := le_rfl
  cell := Heap.alloc_cell_self h _
  kept := (Heap.Extends.refl _ h).alloc (fun _ hp => hp) _
  wiped _ hnew hq hne := absurd (lt_of_le_of_ne (Nat.le_of_lt_succ hq) hne) (not_lt.mpr hnew)

/-- On its buffers the derivation computes what it computes on values. -/
theorem deriveKeyBytesIn_eq_ok {ancestorKey : Nat} {path : List String} {result : Nat × Buffers}
    (hr : deriveKeyBytesIn c h ancestorKey path = .ok result) :
    ∃ key, deriveKeyBytes c (h.cell ancestorKey) path = .ok key ∧ Fresh h key result := by
  rw [deriveKeyBytesIn, bind_eq_ok] at hr
  obtain ⟨_, hvalid, hr⟩ := hr
  obtain rfl := Except.ok.inj hr
  refine ⟨path.foldl c.hkdf (h.cell ancestorKey), ?_, ?_⟩
  · rw [deriveKeyBytes, hvalid, ok_bind]
    rfl
  · exact fresh_deriveSegments fresh_copy (Nat.lt_succ_self h.next) path

theorem deriveKeyBytesIn_eq_error {ancestorKey : Nat} {path : List String} {e : String} :
    deriveKeyBytesIn c h ancestorKey path = .error e ↔
      deriveKeyBytes c (h.cell ancestorKey) path = .error e := by
  rw [deriveKeyBytesIn, deriveKeyBytes]
  cases validateDerivationPath path with
  | ok _ => simp only [ok_bind, pure, Except.pure, reduceCtorEq]
  | error e' => simp only [error_bind, Except.error.injEq]

namespace SubtreeDecrypter

variable {d : SubtreeDecrypter} {privateKey : Nat} {protocol protocolPath : String}

theorem deriveLeafKeyIn_eq_ok (hkey : h.cell privateKey = d.privateKey) {result : Nat × Buffers}
    (hr : d.deriveLeafKeyIn c h privateKey protocol protocolPath = .ok result) :
    ∃ leaf, d.deriveLeafKey c protocol protocolPath = .ok leaf ∧ Fresh h leaf result := by
  rw [deriveLeafKeyIn] at hr
  rw [deriveLeafKey]
  cases hsegs : d.remainingSegments
      (buildProtocolPathDerivation protocol (splitProtocolPath protocolPath)) with
  | none =>
    rw [hsegs] at hr
    cases hr
  | some remaining =>
    rw [hsegs] at hr
    cases remaining with
    | nil =>
      obtain rfl := Except.ok.inj hr
      exact ⟨d.privateKey, rfl, hkey ▸ fresh_copy⟩
    | cons segment rest =>
      obtain ⟨key, hderived, hfresh⟩ := deriveKeyBytesIn_eq_ok hr
      exact ⟨key, hkey ▸ hderived, hfresh⟩

theorem deriveLeafKeyIn_eq_error (hkey : h.cell privateKey = d.privateKey) {e : String}
    (hr : d.deriveLeafKeyIn c h privateKey protocol protocolPath = .error e) :
    d.deriveLeafKey c protocol protocolPath = .error e := by
  rw [deriveLeafKeyIn] at hr
  rw [deriveLeafKey]
  cases hsegs : d.remainingSegments
      (buildProtocolPathDerivation protocol (splitProtocolPath protocolPath)) with
  | none =>
    rw [hsegs] at hr
    obtain rfl := Except.error.inj hr
    rfl
  | some remaining =>
    rw [hsegs] at hr
    cases remaining with
    | nil => cases hr
    | cons segment rest => exact hkey ▸ deriveKeyBytesIn_eq_error.mp hr

/-- Decryption on the buffers has the outcome it has on values. It leaves the decrypter's key and
every other buffer of its caller as they were, and no key of its own behind. -/
theorem decryptIn_eq (derivationPath : List String) (keyID : String) (ciphertext : Bytes)
    (enc : Option Encryption) :
    let d : SubtreeDecrypter := ⟨h.cell privateKey, derivationPath, keyID⟩
    let result := d.decryptIn c h privateKey ciphertext enc protocol protocolPath
    result.1 = d.decrypt c ciphertext enc protocol protocolPath ∧
      Heap.Extends (· < h.next) h result.2 ∧
        ∀ p, h.next ≤ p → p < result.2.next → result.2.Wiped p := by
  intro d result
  have hkey : h.cell privateKey = d.privateKey := rfl
  simp only [result]
  rw [decryptIn, decrypt]
  cases hr : d.deriveLeafKeyIn c h privateKey protocol protocolPath with
  | error e =>
    rw [deriveLeafKeyIn_eq_error hkey hr]
    exact ⟨rfl, Heap.Extends.refl _ h, fun p hnew hp => absurd hp (not_lt.mpr hnew)⟩
  | ok result =>
    obtain ⟨leaf, hleaf, hfresh⟩ := deriveLeafKeyIn_eq_ok hkey hr
    rw [hleaf, ok_bind]
    dsimp only
    refine ⟨by rw [hfresh.cell], hfresh.kept.set (not_lt.mpr hfresh.new) _, fun p hnew hp => ?_⟩
    by_cases hown : p = result.1
    · subst hown
      exact Buffers.wiped_clear
    · intro b hb
      rw [Buffers.clear_cell_of_ne hown] at hb
      exact hfresh.wiped p hnew hp hown b hb

end SubtreeDecrypter

end Meshd.Dwn.Crypto

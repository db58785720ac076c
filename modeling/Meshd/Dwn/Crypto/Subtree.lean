import Meshd.Dwn.Crypto.Jwe
import Meshd.Dwn.Crypto.KeyMaterial

namespace Meshd.Dwn.Crypto

open Meshd.Framework

/-- A key of the owner's derivation tree that a grant key record delivered, with its place there. -/
structure SubtreeDecrypter where
  privateKey : Bytes
  derivationPath : List String
  keyID : String

namespace SubtreeDecrypter

variable (c : Primitives) (d : SubtreeDecrypter)

/-- The segments below the delivered key; `none` is the nil slice of a path it does not cover. -/
def remainingSegments (full : List String) : Option (List String) :=
  if full.length < d.derivationPath.length then none
  else if (full.zip d.derivationPath).any (fun (segment, delivered) => segment ≠ delivered) then none
  else some (full.drop d.derivationPath.length)

def covers (protocol protocolPath : String) : Bool :=
  (d.remainingSegments
    (buildProtocolPathDerivation protocol (splitProtocolPath protocolPath))).isSome

/-- A list of texts as Go prints it. -/
def printTexts (texts : List String) : String := "[" ++ " ".intercalate texts ++ "]"

def deriveLeafKey (protocol protocolPath : String) : Except String Bytes :=
  let full := buildProtocolPathDerivation protocol (splitProtocolPath protocolPath)
  match d.remainingSegments full with
  | none => .error ("delivered subtree key at " ++ printTexts d.derivationPath ++
      " does not cover derivation path " ++ printTexts full)
  | some [] => .ok d.privateKey
  | some remaining => deriveKeyBytes c d.privateKey remaining

def decrypt (ciphertext : Bytes) (enc : Option Encryption) (protocol protocolPath : String) :
    Except String Bytes := do
  let leaf ← d.deriveLeafKey c protocol protocolPath
  decryptData c ciphertext enc leaf

end SubtreeDecrypter

def newSubtreeDecrypter (c : Primitives) (km : ProtocolPathKeyMaterial) :
    Except String SubtreeDecrypter :=
  if km.algorithm ≠ algX25519HKDFA256KW then
    .error ("subtree key material algorithm must be " ++ algX25519HKDFA256KW.quote ++ ", got " ++
      km.algorithm.quote)
  else if km.derivationScheme ≠ derivationSchemeProtocolPath then
    .error ("subtree key material derivationScheme must be " ++
      derivationSchemeProtocolPath.quote ++ ", got " ++ km.derivationScheme.quote)
  else if km.derivationPath.length < 2 ∨
      km.derivationPath.head? ≠ some derivationSchemeProtocolPath then
    .error ("subtree key material derivationPath must start with [" ++
      derivationSchemeProtocolPath.quote ++ ", <protocol>]")
  else do
    verifyX25519KeyMaterial c km.keyID km.publicKeyJwk km.privateKeyJwk
    let priv ← (base64URLDecode km.privateKeyJwk.d).mapError ("decoding subtree private key: " ++ ·)
    return { privateKey := priv, derivationPath := km.derivationPath, keyID := km.keyID }

section Composition

variable {c : Primitives}

/-- Deriving along one path and on from there is deriving along both. -/
theorem deriveKeyBytes_append {p q : List String} (hp : "" ∉ p) (hq : "" ∉ q) (key : Bytes) :
    (deriveKeyBytes c key p >>= fun derived => deriveKeyBytes c derived q) =
      deriveKeyBytes c key (p ++ q) := by
  have hpq : "" ∉ p ++ q := by simp [hp, hq]
  rw [deriveKeyBytes_ok hp, ok_bind, deriveKeyBytes_ok hq, deriveKeyBytes_ok hpq,
    List.foldl_append]

/-- A derivation that succeeds has met no empty segment. -/
theorem deriveKeyBytes_eq_ok {key derived : Bytes} {path : List String} :
    deriveKeyBytes c key path = .ok derived ↔ "" ∉ path ∧ derived = path.foldl c.hkdf key := by
  constructor
  · intro h
    rw [deriveKeyBytes, bind_eq_ok] at h
    obtain ⟨_, hvalid, h⟩ := h
    refine ⟨fun hmem => ?_, (Except.ok.inj h).symm⟩
    have hfound : (path.findIdx? fun s => decide (s = "")).isSome := by
      rw [List.findIdx?_isSome, List.any_eq_true]
      exact ⟨"", hmem, decide_eq_true rfl⟩
    obtain ⟨i, hi⟩ := Option.isSome_iff_exists.mp hfound
    rw [validateDerivationPath, hi] at hvalid
    cases hvalid
  · rintro ⟨hne, rfl⟩
    exact deriveKeyBytes_ok hne key

theorem not_mem_splitProtocolPath (path : String) : "" ∉ splitProtocolPath path := by
  intro h
  obtain ⟨segment, hmem, hempty⟩ := List.mem_map.mp h
  have hne := (List.mem_filter.mp hmem).2
  rw [String.ofList_eq_empty_iff] at hempty
  simp [hempty] at hne

theorem newSubtreeDecrypter_eq_ok {km : ProtocolPathKeyMaterial} {d : SubtreeDecrypter} :
    newSubtreeDecrypter c km = .ok d ↔
      km.algorithm = algX25519HKDFA256KW ∧ km.derivationScheme = derivationSchemeProtocolPath ∧
      2 ≤ km.derivationPath.length ∧
      km.derivationPath.head? = some derivationSchemeProtocolPath ∧
      verifyX25519KeyMaterial c km.keyID km.publicKeyJwk km.privateKeyJwk = .ok () ∧
      ∃ priv, base64URLDecode km.privateKeyJwk.d = .ok priv ∧
        d = { privateKey := priv, derivationPath := km.derivationPath, keyID := km.keyID } := by
  simp only [newSubtreeDecrypter, ite_error_eq_ok, bind_eq_ok, mapError_eq_ok, not_or, not_not,
    not_lt]
  constructor
  · rintro ⟨halg, hscheme, ⟨hlen, hhead⟩, _, hverified, priv, hpriv, hd⟩
    exact ⟨halg, hscheme, hlen, hhead, hverified, priv, hpriv, (Except.ok.inj hd).symm⟩
  · rintro ⟨halg, hscheme, hlen, hhead, hverified, priv, hpriv, rfl⟩
    exact ⟨halg, hscheme, ⟨hlen, hhead⟩, (), hverified, priv, hpriv, rfl⟩

end Composition

namespace SubtreeDecrypter

variable {c : Primitives} {d : SubtreeDecrypter}

/-- The loop over the delivered path finds a difference unless this is a prefix. -/
theorem any_zip_ne {path full : List String} (h : path.length ≤ full.length) :
    (full.zip path).any (fun (segment, delivered) => segment ≠ delivered) = true ↔
      ¬ path <+: full := by
  induction path generalizing full with
  | nil => simp
  | cons delivered path ih =>
    cases full with
    | nil => simp at h
    | cons segment full =>
      rw [List.zip_cons_cons, List.any_cons, Bool.or_eq_true, ih (Nat.le_of_succ_le_succ h),
        List.cons_prefix_cons, not_and_or, decide_eq_true_iff, ne_comm]

theorem remainingSegments_eq (full : List String) : d.remainingSegments full =
    if d.derivationPath <+: full then some (full.drop d.derivationPath.length) else none := by
  rw [remainingSegments]
  by_cases hlen : full.length < d.derivationPath.length
  · rw [if_pos hlen, if_neg fun hprefix => absurd hprefix.length_le (not_le.mpr hlen)]
  · rw [if_neg hlen, if_congr (any_zip_ne (not_lt.mp hlen)) rfl rfl, ite_not]

theorem covers_iff {protocol protocolPath : String} :
    d.covers protocol protocolPath = true ↔
      d.derivationPath <+: buildProtocolPathDerivation protocol (splitProtocolPath protocolPath) := by
  rw [covers, remainingSegments_eq]
  split_ifs with h
  · simp [h]
  · simp [h]

/-- A path that is not covered has no leaf key. -/
theorem deriveLeafKey_of_not_covers {protocol protocolPath : String}
    (h : d.covers protocol protocolPath = false) :
    ∃ e, d.deriveLeafKey c protocol protocolPath = .error e := by
  have hnot : ¬ d.derivationPath <+:
      buildProtocolPathDerivation protocol (splitProtocolPath protocolPath) := by
    rw [← covers_iff, h]
    decide
  simp only [deriveLeafKey, remainingSegments_eq, if_neg hnot]
  exact ⟨_, rfl⟩

/-- A covered path has the leaf key that its remaining segments lead to. -/
theorem deriveLeafKey_of_covers {protocol protocolPath : String} {remaining : List String}
    (h : d.derivationPath ++ remaining =
      buildProtocolPathDerivation protocol (splitProtocolPath protocolPath)) :
    d.deriveLeafKey c protocol protocolPath = deriveKeyBytes c d.privateKey remaining := by
  have hremaining : d.remainingSegments
      (buildProtocolPathDerivation protocol (splitProtocolPath protocolPath)) = some remaining := by
    rw [remainingSegments_eq, ← h, if_pos (List.prefix_append _ _), List.drop_left]
  rw [deriveLeafKey, hremaining]
  cases remaining with
  | nil => rfl
  | cons segment rest => rfl

/-- The leaf key of a covered path is the owner's. -/
theorem deriveLeafKey_eq_owner {root : Bytes} {protocol protocolPath : String}
    (hlen : 2 ≤ d.derivationPath.length)
    (hkey : deriveKeyBytes c root d.derivationPath = .ok d.privateKey)
    (h : d.covers protocol protocolPath = true) :
    ∃ leaf, d.deriveLeafKey c protocol protocolPath = .ok leaf ∧
      EncryptionKeyManager.deriveDecryptionKey c ⟨root, protocol⟩ protocolPath = .ok leaf := by
  set full := buildProtocolPathDerivation protocol (splitProtocolPath protocolPath) with hfull
  obtain ⟨remaining, hremaining⟩ := covers_iff.mp h
  have hpre : "" ∉ d.derivationPath := (deriveKeyBytes_eq_ok.mp hkey).1
  -- the delivered path reaches the protocol, which is therefore not empty either
  have hprotocol : [derivationSchemeProtocolPath, protocol] <+: d.derivationPath :=
    List.prefix_of_prefix_length_le ⟨splitProtocolPath protocolPath, rfl⟩ ⟨remaining, hremaining⟩ hlen
  have hnonempty : "" ∉ full := by
    intro hmem
    obtain hfirst | hrest := List.mem_append.mp
      (show "" ∈ [derivationSchemeProtocolPath, protocol] ++ splitProtocolPath protocolPath from hmem)
    · exact hpre (hprotocol.subset hfirst)
    · exact not_mem_splitProtocolPath protocolPath hrest
  have hsuffix : "" ∉ remaining := by
    intro hmem
    apply hnonempty
    rw [hfull, ← hremaining]
    exact List.mem_append_right _ hmem
  refine ⟨full.foldl c.hkdf root, ?_, ?_⟩
  · calc d.deriveLeafKey c protocol protocolPath
      _ = deriveKeyBytes c d.privateKey remaining := deriveLeafKey_of_covers hremaining
      _ = (deriveKeyBytes c root d.derivationPath >>= fun key =>
            deriveKeyBytes c key remaining) := by rw [hkey, ok_bind]
      _ = deriveKeyBytes c root full := by rw [deriveKeyBytes_append hpre hsuffix, hremaining]
      _ = .ok (full.foldl c.hkdf root) := deriveKeyBytes_ok hnonempty root
  · rw [EncryptionKeyManager.deriveDecryptionKey, ← hfull,
      derivePrivateKey_ok hnonempty (by simp [hfull, buildProtocolPathDerivation]), mapError_ok,
      ok_bind]
    rfl

/-- A key below one child of a node covers nothing below another. -/
theorem not_covers_sibling {protocol protocol' protocolPath : String} {parent rest : List String}
    {name other : String}
    (hpath : d.derivationPath = buildProtocolPathDerivation protocol (parent ++ [name]))
    (hsplit : splitProtocolPath protocolPath = parent ++ other :: rest) (hne : other ≠ name) :
    d.covers protocol' protocolPath = false := by
  rw [← Bool.not_eq_true, covers_iff, hpath, hsplit]
  simp only [buildProtocolPathDerivation, List.cons_prefix_cons, List.prefix_append_right_inj,
    not_and]
  rintro - - hname
  exact absurd hname.symm hne

end SubtreeDecrypter

/-- The material of a key as a grant delivers it. -/
def subtreeKeyMaterial (c : Primitives) (path : List String) (key : Bytes) :
    ProtocolPathKeyMaterial :=
  let x := Base64.rawURLEncode (c.x25519Base key)
  { algorithm := algX25519HKDFA256KW, derivationScheme := derivationSchemeProtocolPath,
    derivationPath := path, keyID := jwkThumbprintX25519 c x,
    publicKeyJwk := ⟨"OKP", "X25519", x⟩,
    privateKeyJwk := ⟨"OKP", "X25519", x, Base64.rawURLEncode key⟩ }

section Composition

variable {c : Primitives} {root key : Bytes} {pre : List String}

theorem newSubtreeDecrypter_subtreeKeyMaterial (hlen : 2 ≤ pre.length)
    (hhead : pre.head? = some derivationSchemeProtocolPath) (hkey : key.length = 32) :
    newSubtreeDecrypter c (subtreeKeyMaterial c pre key) =
      .ok ⟨key, pre, thumbprintForPublicKey c (c.x25519Base key)⟩ := by
  have hdecode : base64URLDecode (Base64.rawURLEncode key) = .ok key :=
    base64URLDecode_rawURLEncode key
  rw [newSubtreeDecrypter_eq_ok]
  refine ⟨rfl, rfl, hlen, hhead, ?_, key, hdecode, rfl⟩
  exact verifyX25519KeyMaterial_eq_ok.mpr ⟨key, hdecode, hkey, rfl, rfl⟩

end Composition

/-- Derivation composes. A decrypter can be built from the key at every prefix of a derivation path
that has a protocol in it; it covers the paths below that prefix, with the owner's own keys, and no
others. -/
theorem subtree_derivation (c : Primitives) :
    (∀ (key : Bytes) (p q : List String), "" ∉ p → "" ∉ q →
      (deriveKeyBytes c key p >>= fun derived => deriveKeyBytes c derived q) =
        deriveKeyBytes c key (p ++ q)) ∧
    ∀ (root key : Bytes) (protocol : String) (segments pre : List String),
      pre <+: buildProtocolPathDerivation protocol segments → 2 ≤ pre.length →
      deriveKeyBytes c root pre = .ok key →
      (∃ d, newSubtreeDecrypter c (subtreeKeyMaterial c pre key) = .ok d) ∧
      ∀ km d, km.derivationPath = pre → base64URLDecode km.privateKeyJwk.d = .ok key →
        newSubtreeDecrypter c km = .ok d →
        (∀ protocol' protocolPath,
          (d.covers protocol' protocolPath = true ↔
            pre <+: buildProtocolPathDerivation protocol' (splitProtocolPath protocolPath)) ∧
          (d.covers protocol' protocolPath = true →
            ∃ leaf, d.deriveLeafKey c protocol' protocolPath = .ok leaf ∧
              EncryptionKeyManager.deriveDecryptionKey c ⟨root, protocol'⟩ protocolPath =
                .ok leaf) ∧
          (d.covers protocol' protocolPath = false →
            ∃ e, d.deriveLeafKey c protocol' protocolPath = .error e)) ∧
        (pre = buildProtocolPathDerivation protocol (splitProtocolPath "network/node") →
          d.covers protocol "network/nodeRequest" = false) ∧
        ∀ parent name other rest protocolPath,
          pre = buildProtocolPathDerivation protocol (parent ++ [name]) → other ≠ name →
          splitProtocolPath protocolPath = parent ++ other :: rest →
          d.covers protocol protocolPath = false := by
  refine ⟨fun key p q hp hq => deriveKeyBytes_append hp hq key, ?_⟩
  intro root key protocol segments pre hpre hlen hkey
  have hhead : pre.head? = some derivationSchemeProtocolPath := by
    obtain ⟨rest, hrest⟩ := hpre
    cases pre with
    | nil => simp at hlen
    | cons first _ => exact congrArg some (List.cons.inj hrest).1
  have hlength : key.length = 32 := by
    rw [(deriveKeyBytes_eq_ok.mp hkey).2]
    exact length_foldl_hkdf (by rintro rfl; simp at hlen) root
  refine ⟨⟨_, newSubtreeDecrypter_subtreeKeyMaterial hlen hhead hlength⟩, ?_⟩
  rintro km d rfl hdecode hd
  obtain ⟨-, -, -, -, -, priv, hpriv, rfl⟩ := newSubtreeDecrypter_eq_ok.mp hd
  obtain rfl := Except.ok.inj (hpriv.symm.trans hdecode)
  refine ⟨fun protocol' protocolPath => ⟨SubtreeDecrypter.covers_iff, ?_, ?_⟩, ?_, ?_⟩
  · exact SubtreeDecrypter.deriveLeafKey_eq_owner hlen hkey
  · exact SubtreeDecrypter.deriveLeafKey_of_not_covers
  · intro hnode
    have hsplit : splitProtocolPath "network/nodeRequest" = ["network"] ++ "nodeRequest" :: [] := by
      decide
    have hparent : splitProtocolPath "network/node" = ["network"] ++ ["node"] := by decide
    rw [hparent] at hnode
    exact SubtreeDecrypter.not_covers_sibling hnode hsplit (by decide)
  · intro parent name other rest protocolPath hname hne hsplit
    exact SubtreeDecrypter.not_covers_sibling hname hsplit hne

def nodePath : List String := ["protocolPath", "https://mesh", "network", "node"]

def nodeKey : Bytes := nodePath.foldl Primitives.transparent.hkdf (List.replicate 32 1)

theorem subtree_derivation_node :
    ∃ d, newSubtreeDecrypter .transparent (subtreeKeyMaterial .transparent nodePath nodeKey) =
        .ok d ∧
      d.covers "https://mesh" "network/node/nodeInfo" = true ∧
      d.covers "https://mesh" "network/nodeRequest" = false := by
  have hkey : deriveKeyBytes .transparent (List.replicate 32 1) nodePath = .ok nodeKey :=
    deriveKeyBytes_ok (by decide) _
  obtain ⟨⟨d, hd⟩, hall⟩ := (subtree_derivation .transparent).2 (List.replicate 32 1) nodeKey
    "https://mesh" ["network", "node"] nodePath List.prefix_rfl (by decide) hkey
  obtain ⟨hcovers, hrequest, -⟩ := hall (subtreeKeyMaterial .transparent nodePath nodeKey) d rfl
    (base64URLDecode_rawURLEncode nodeKey) hd
  exact ⟨d, hd, (hcovers _ _).1.mpr (by decide), hrequest (by decide)⟩

end Meshd.Dwn.Crypto

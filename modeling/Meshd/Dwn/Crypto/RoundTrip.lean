import Meshd.Dwn.Crypto.Jwe
import Mathlib.Data.List.Forall2

namespace Meshd.Dwn.Crypto

open Meshd.Framework

variable {c : Primitives}

/-! ### Content -/

@[simp] theorem length_keyStream (block : Equiv.Perm Block) (iv : Bytes) (count : Nat) :
    (keyStream block iv count).length = 16 * count := by
  rw [keyStream, Buffer.length_concat, List.length_map, List.length_range]

theorem ctrXor_ok {key iv : Bytes} (hkey : key.length = 32) (hiv : iv.length = 16)
    (input : Bytes) :
    ctrXor c key iv input =
      .ok (xorBytes input (keyStream (c.aes key) iv ((input.length + 15) / 16))) := by
  rw [ctrXor, if_neg (by simp [cekSize, hkey]), if_neg (by simp [ivSizeA256CTR, hiv]),
    newCipher_ok hkey]
  rfl

/-- The counter mode undoes itself. -/
theorem ctrXor_ctrXor {key iv : Bytes} (hkey : key.length = 32) (hiv : iv.length = 16)
    {input output : Bytes} (h : ctrXor c key iv input = .ok output) :
    ctrXor c key iv output = .ok input := by
  rw [ctrXor_ok hkey hiv] at h
  obtain rfl := Except.ok.inj h
  have hle : input.length ≤
      (keyStream (c.aes key) iv ((input.length + 15) / 16)).length := by
    rw [length_keyStream]
    omega
  have hlen : (xorBytes input (keyStream (c.aes key) iv ((input.length + 15) / 16))).length =
      input.length := by
    rw [length_xorBytes, Nat.min_eq_left hle]
  rw [ctrXor_ok hkey hiv, hlen, xorBytes_xorBytes hle]

/-! ### Entries -/

/-- The entry that wraps a content key for a recipient. -/
structure Wraps (c : Primitives) (cek : Bytes) (input : KeyEncryptionInput)
    (entry : KeyEncryption) : Prop where
  publicKey : input.publicKey.length = 32
  keyID : entry.keyID = thumbprintForPublicKey c input.publicKey
  scheme : entry.derivationScheme = input.scheme
  /-- The key is wrapped under what the recipient's key agrees on with an ephemeral one. -/
  wrapped : ∃ (ephPriv : Buffer 32) (shared : Bytes) (info : String) (wrapped : Bytes),
    c.x25519 ephPriv.val input.publicKey = some shared ∧
    kekInfo entry = .ok info ∧
    aesKeyWrap c (c.hkdf shared info) cek = .ok wrapped ∧
    entry.encryptedKey = Base64.rawURLEncode wrapped ∧
    entry.ephemeralPublicKey = some ⟨"OKP", "X25519", Base64.rawURLEncode (c.x25519Base ephPriv.val)⟩

theorem x25519SharedSecret_eq_ok {priv pub shared : Bytes} :
    x25519SharedSecret c priv pub = .ok shared ↔
      priv.length = 32 ∧ pub.length = 32 ∧ c.x25519 priv pub = some shared := by
  simp only [x25519SharedSecret, x25519KeySize]
  by_cases hpriv : priv.length = 32
  · by_cases hpub : pub.length = 32
    · cases hs : c.x25519 priv pub with
      | none => simp [hpriv, hpub]
      | some s => simp [hpriv, hpub]
    · simp [hpriv, hpub]
  · simp [hpriv]

theorem wrapCEK_eq_ok {read : Except String (Buffer 32)} {pub cek ephPub wrapped : Bytes}
    {info : String} (h : wrapCEK c read pub cek info = .ok (ephPub, wrapped)) :
    ∃ (ephPriv : Buffer 32) (shared : Bytes), c.x25519 ephPriv.val pub = some shared ∧
      aesKeyWrap c (c.hkdf shared info) cek = .ok wrapped ∧ ephPub = c.x25519Base ephPriv.val := by
  rw [wrapCEK, bind_eq_ok] at h
  obtain ⟨⟨ephPriv, ephPub'⟩, hpair, h⟩ := h
  rw [mapError_eq_ok, generateX25519KeyPair, bind_eq_ok] at hpair
  obtain ⟨key, -, hpair⟩ := hpair
  obtain ⟨rfl, rfl⟩ := Prod.mk.inj (Except.ok.inj hpair)
  dsimp only at h
  rw [bind_eq_ok] at h
  obtain ⟨shared, hshared, h⟩ := h
  rw [mapError_eq_ok, x25519SharedSecret_eq_ok] at hshared
  rw [bind_eq_ok] at h
  obtain ⟨wrapped', hwrapped, h⟩ := h
  obtain ⟨rfl, rfl⟩ := Prod.mk.inj (Except.ok.inj h)
  exact ⟨key, shared, hshared.2.2, mapError_eq_ok.mp hwrapped, rfl⟩

/-- The info text of a blank entry is the one its reader computes. -/
theorem blankEntry_eq_ok {input : KeyEncryptionInput} {keyID info : String} {entry : KeyEncryption}
    (h : blankEntry input keyID = .ok (info, entry)) :
    entry.keyID = keyID ∧ entry.derivationScheme = input.scheme ∧ kekInfo entry = .ok info := by
  simp only [blankEntry] at h
  split_ifs at h with hpath haud hempty
  · obtain ⟨rfl, rfl⟩ := Prod.mk.inj (Except.ok.inj h)
    exact ⟨rfl, rfl, by rw [kekInfo, if_pos hpath]⟩
  · obtain ⟨rfl, rfl⟩ := Prod.mk.inj (Except.ok.inj h)
    exact ⟨rfl, rfl, by rw [kekInfo, if_neg hpath, if_pos haud]⟩

theorem wraps_of_wrapCEKEntry {read : Except String (Buffer 32)} {cek : Bytes}
    {input : KeyEncryptionInput} {entry : KeyEncryption}
    (h : wrapCEKEntry c read cek input = .ok entry) : Wraps c cek input entry := by
  rw [wrapCEKEntry] at h
  split_ifs at h with hlen
  rw [bind_eq_ok] at h
  obtain ⟨⟨info, blank⟩, hblank, h⟩ := h
  dsimp only at h
  rw [bind_eq_ok] at h
  obtain ⟨⟨ephPub, wrapped⟩, hwrap, h⟩ := h
  obtain ⟨hid, hscheme, hinfo⟩ := blankEntry_eq_ok hblank
  obtain ⟨ephPriv, shared, hshared, hwrapped, rfl⟩ := wrapCEK_eq_ok (mapError_eq_ok.mp hwrap)
  obtain rfl := Except.ok.inj h
  exact
    { publicKey := by simpa [x25519KeySize] using hlen
      keyID := hid
      scheme := hscheme
      wrapped := ⟨ephPriv, shared, info, wrapped, hshared, hinfo, hwrapped, rfl, rfl⟩ }

/-- The entries are those of the recipients, one for each and in their order. -/
theorem wraps_of_wrapCEKEntries {ephemeral : Nat → Except String (Buffer 32)} {cek : Bytes} {i : Nat}
    {inputs : List KeyEncryptionInput} {entries : List KeyEncryption}
    (h : wrapCEKEntries c ephemeral cek i inputs = .ok entries) :
    List.Forall₂ (Wraps c cek) inputs entries := by
  induction inputs generalizing i entries with
  | nil =>
    obtain rfl := Except.ok.inj h
    exact .nil
  | cons input rest ih =>
    rw [wrapCEKEntries, bind_eq_ok] at h
    obtain ⟨entry, hentry, h⟩ := h
    rw [bind_eq_ok] at h
    obtain ⟨others, hothers, h⟩ := h
    obtain rfl := Except.ok.inj h
    exact .cons (wraps_of_wrapCEKEntry hentry) (ih hothers)

/-- Wrapped bytes that two keys unwrap do not exist: unwrapping under a wrong key fails. -/
def WrongKeysFail (c : Primitives) (wrapped : Bytes) : Prop :=
  ∀ kek kek' : Bytes, kek.length = 32 → kek'.length = 32 →
    ∀ cek cek', aesKeyUnwrap c kek wrapped = .ok cek → aesKeyUnwrap c kek' wrapped = .ok cek' →
      kek = kek'

section Entry

variable {cek : Bytes} {input : KeyEncryptionInput} {entry : KeyEncryption}

/-- The entry with what it was made from read back. -/
theorem Wraps.unwrapEntry_eq (h : Wraps c cek input entry) :
    ∃ (ephPriv : Buffer 32) (shared : Bytes) (info : String) (wrapped : Bytes),
      c.x25519 ephPriv.val input.publicKey = some shared ∧
      aesKeyWrap c (c.hkdf shared info) cek = .ok wrapped ∧
      base64URLDecode entry.encryptedKey = .ok wrapped ∧
      ∀ priv, unwrapEntry c entry priv =
        unwrapCEK c priv (c.x25519Base ephPriv.val) wrapped info := by
  obtain ⟨ephPriv, shared, info, wrapped, hshared, hinfo, hwrap, hkey, heph⟩ := h.wrapped
  have hdecode : base64URLDecode entry.encryptedKey = .ok wrapped := by
    rw [hkey, base64URLDecode_rawURLEncode]
  refine ⟨ephPriv, shared, info, wrapped, hshared, hwrap, hdecode, fun priv => ?_⟩
  rw [unwrapEntry, heph]
  dsimp only
  rw [base64URLDecode_rawURLEncode, mapError_ok, ok_bind, hdecode, mapError_ok, ok_bind, hinfo,
    ok_bind]

/-- Whoever holds the recipient's private key gets the content key. -/
theorem Wraps.unwrapEntry_holder (h : Wraps c cek input entry) (hcek : cek.length = 32) {priv : Bytes}
    (hlen : priv.length = 32) (hpub : c.x25519Base priv = input.publicKey) :
    unwrapEntry c entry priv = .ok cek := by
  obtain ⟨ephPriv, shared, info, wrapped, hshared, hwrap, -, hunwrap⟩ := h.unwrapEntry_eq
  have hagree : x25519SharedSecret c priv (c.x25519Base ephPriv.val) = .ok shared := by
    rw [x25519SharedSecret_eq_ok]
    refine ⟨hlen, c.length_x25519Base _ ephPriv.property, ?_⟩
    rw [c.x25519_comm _ _ hlen ephPriv.property, hpub, hshared]
  rw [hunwrap, unwrapCEK, hagree, mapError_ok, ok_bind, deriveKEK,
    aesKeyUnwrap_aesKeyWrap hwrap (by omega), mapError_ok]

/-- Any other key gets the content key or an error. -/
theorem Wraps.unwrapEntry_eq_ok (h : Wraps c cek input entry) (hcek : cek.length = 32)
    (hwrong : ∀ wrapped, base64URLDecode entry.encryptedKey = .ok wrapped → WrongKeysFail c wrapped)
    {priv key : Bytes} (hkey : unwrapEntry c entry priv = .ok key) : key = cek := by
  obtain ⟨ephPriv, shared, info, wrapped, -, hwrap, hdecode, hunwrap⟩ := h.unwrapEntry_eq
  rw [hunwrap, unwrapCEK, bind_eq_ok] at hkey
  obtain ⟨shared', -, hkey⟩ := hkey
  rw [mapError_eq_ok, deriveKEK] at hkey
  have hright : aesKeyUnwrap c (c.hkdf shared info) wrapped = .ok cek :=
    aesKeyUnwrap_aesKeyWrap hwrap (by omega)
  have hkek : c.hkdf shared' info = c.hkdf shared info :=
    hwrong wrapped hdecode _ _ (c.length_hkdf _ _) (c.length_hkdf _ _) _ _ hkey hright
  rw [hkek, hright] at hkey
  exact (Except.ok.inj hkey).symm

end Entry

/-! ### Envelopes -/

/-- The envelope of a plaintext for a list of recipients. -/
structure Seals (c : Primitives) (plaintext : Bytes) (recipients : List KeyEncryptionInput)
    (ct : Bytes) (enc : Encryption) (cek : Bytes) : Prop where
  length : cek.length = 32
  content : decryptContent c enc cek ct = .ok plaintext
  entries : List.Forall₂ (Wraps c cek) recipients enc.keyEncryption

theorem seals_of_encryptData {entropy : Entropy} {plaintext ct : Bytes}
    {recipients : List KeyEncryptionInput} {enc : Encryption}
    (h : encryptData c entropy plaintext recipients = .ok (ct, enc)) :
    ∃ cek, Seals c plaintext recipients ct enc cek := by
  rw [encryptData] at h
  split_ifs at h with hnil
  rw [bind_eq_ok] at h
  obtain ⟨cek, -, h⟩ := h
  rw [bind_eq_ok] at h
  obtain ⟨iv, -, h⟩ := h
  rw [bind_eq_ok] at h
  obtain ⟨ct', hct, h⟩ := h
  rw [bind_eq_ok] at h
  obtain ⟨entries, hentries, h⟩ := h
  obtain ⟨rfl, rfl⟩ := Prod.mk.inj (Except.ok.inj h)
  refine ⟨cek.val, cek.property, ?_, wraps_of_wrapCEKEntries hentries⟩
  rw [decryptContent, if_neg (not_not.mpr rfl), base64URLDecode_rawURLEncode, mapError_ok, ok_bind]
  exact ctrXor_ctrXor cek.property iv.property (mapError_eq_ok.mp hct)

/-- The selected entry is one of the protocol path's, and the key's own where there is one. -/
theorem selectFrom_eq_some {want : String} {first : Option KeyEncryption}
    {entries : List KeyEncryption} {entry : KeyEncryption}
    (h : selectFrom want first entries = some entry) :
    first = some entry ∨ entry ∈ entries := by
  induction entries generalizing first with
  | nil => exact .inl h
  | cons e rest ih =>
    rw [selectFrom] at h
    split_ifs at h with hscheme hid
    · exact (ih h).imp_right (List.mem_cons_of_mem e)
    · obtain rfl := Option.some.inj h
      exact .inr List.mem_cons_self
    · obtain hfirst | hrest := ih h
      · cases first with
        | none => exact .inr (by simp_all)
        | some f => exact .inl hfirst
      · exact .inr (List.mem_cons_of_mem e hrest)

theorem selectFrom_of_mem {want : String} (first : Option KeyEncryption)
    {entries : List KeyEncryption} {e : KeyEncryption} (he : e ∈ entries)
    (hscheme : e.derivationScheme = derivationSchemeProtocolPath) (hid : e.keyID = want) :
    ∃ entry ∈ entries, selectFrom want first entries = some entry ∧ entry.keyID = want := by
  induction entries generalizing first with
  | nil => cases he
  | cons d rest ih =>
    rw [selectFrom]
    by_cases hd : d.derivationScheme = derivationSchemeProtocolPath
    · rw [if_neg (not_not.mpr hd)]
      by_cases hdid : d.keyID = want
      · exact ⟨d, List.mem_cons_self, if_pos hdid, hdid⟩
      · rw [if_neg hdid]
        have hrest : e ∈ rest := (List.mem_cons.mp he).resolve_left (by rintro rfl; exact hdid hid)
        obtain ⟨entry, hmem, hsel⟩ := ih (first.or (some d)) hrest
        exact ⟨entry, List.mem_cons_of_mem d hmem, hsel⟩
    · rw [if_pos hd]
      have hrest : e ∈ rest := (List.mem_cons.mp he).resolve_left (by rintro rfl; exact hd hscheme)
      obtain ⟨entry, hmem, hsel⟩ := ih first hrest
      exact ⟨entry, List.mem_cons_of_mem d hmem, hsel⟩

theorem exists_of_forall₂ {α β : Type} {R : α → β → Prop} {l : List α} {l' : List β}
    (h : List.Forall₂ R l l') {a : α} (ha : a ∈ l) : ∃ b ∈ l', R a b := by
  induction h with
  | nil => cases ha
  | cons hab _ ih =>
    obtain rfl | ha := List.mem_cons.mp ha
    · exact ⟨_, List.mem_cons_self, hab⟩
    · obtain ⟨b, hb, hr⟩ := ih ha
      exact ⟨b, List.mem_cons_of_mem _ hb, hr⟩

section Envelope

variable {plaintext ct cek priv : Bytes} {recipients : List KeyEncryptionInput} {enc : Encryption}
  {input : KeyEncryptionInput} {entry : KeyEncryption}

theorem Seals.exists_input (h : Seals c plaintext recipients ct enc cek)
    (he : entry ∈ enc.keyEncryption) : ∃ input ∈ recipients, Wraps c cek input entry :=
  exists_of_forall₂ (List.Forall₂.flip h.entries) he

/-- A recipient has one of the two schemes. -/
theorem Seals.scheme_cases (h : Seals c plaintext recipients ct enc cek)
    (hin : input ∈ recipients) :
    input.scheme = derivationSchemeProtocolPath ∨ input.scheme = derivationSchemeRoleAudience := by
  obtain ⟨entry, -, hwraps⟩ := exists_of_forall₂ h.entries hin
  obtain ⟨-, -, info, -, -, hinfo, -⟩ := hwraps.wrapped
  rw [← hwraps.scheme]
  rw [kekInfo] at hinfo
  split_ifs at hinfo with hpath haud
  · exact .inl hpath
  · exact .inr haud

/-- No two recipients with different keys have the same thumbprint. -/
def ThumbprintsDiffer (c : Primitives) (recipients : List KeyEncryptionInput) : Prop :=
  ∀ r ∈ recipients, ∀ r' ∈ recipients,
    thumbprintForPublicKey c r.publicKey = thumbprintForPublicKey c r'.publicKey →
      r.publicKey = r'.publicKey

/-- No entry is unwrapped by a key other than its own. -/
def WrongKeysFailIn (c : Primitives) (enc : Encryption) : Prop :=
  ∀ entry ∈ enc.keyEncryption, ∀ wrapped,
    base64URLDecode entry.encryptedKey = .ok wrapped → WrongKeysFail c wrapped

/-- An entry with the thumbprint of a recipient's key opens to the holder of that key, also where it
is the entry of another recipient. -/
theorem Seals.unwrapEntry_holder (h : Seals c plaintext recipients ct enc cek)
    (hthumb : ThumbprintsDiffer c recipients) (hin : input ∈ recipients) (hlen : priv.length = 32)
    (hpub : c.x25519Base priv = input.publicKey) (he : entry ∈ enc.keyEncryption)
    (hid : entry.keyID = thumbprintForPublicKey c input.publicKey) :
    unwrapEntry c entry priv = .ok cek := by
  obtain ⟨input', hin', hwraps⟩ := h.exists_input he
  have hsame : input'.publicKey = input.publicKey :=
    hthumb input' hin' input hin (hwraps.keyID.symm.trans hid)
  exact hwraps.unwrapEntry_holder h.length hlen (hpub.trans hsame.symm)

theorem Seals.decryptData_holder (h : Seals c plaintext recipients ct enc cek)
    (hthumb : ThumbprintsDiffer c recipients) (hin : input ∈ recipients)
    (hscheme : input.scheme = derivationSchemeProtocolPath) (hlen : priv.length = 32)
    (hpub : c.x25519Base priv = input.publicKey) :
    decryptData c ct (some enc) priv = .ok plaintext := by
  obtain ⟨own, hown, hwraps⟩ := exists_of_forall₂ h.entries hin
  obtain ⟨entry, hentry, hselect, hid⟩ :=
    selectFrom_of_mem none hown (hwraps.scheme.trans hscheme) hwraps.keyID
  have hselected : selectProtocolPathEntry c (some enc) priv = .ok entry := by
    simp only [selectProtocolPathEntry]
    rw [x25519PublicKey_ok hlen, ok_bind, hpub, hselect]
  rw [decryptData, hselected, ok_bind, h.unwrapEntry_holder hthumb hin hlen hpub hentry hid, ok_bind]
  exact h.content

/-- Whatever key is tried, the content comes out or an error. -/
theorem Seals.decryptData_eq_ok (h : Seals c plaintext recipients ct enc cek)
    (hwrong : WrongKeysFailIn c enc) {result : Bytes}
    (hok : decryptData c ct (some enc) priv = .ok result) : result = plaintext := by
  rw [decryptData, bind_eq_ok] at hok
  obtain ⟨entry, hselected, hok⟩ := hok
  rw [bind_eq_ok] at hok
  obtain ⟨key, hkey, hok⟩ := hok
  have hentry : entry ∈ enc.keyEncryption := by
    simp only [selectProtocolPathEntry, bind_eq_ok] at hselected
    obtain ⟨pub, -, hselected⟩ := hselected
    split at hselected
    · next found hfound =>
      obtain rfl := Except.ok.inj hselected
      exact (selectFrom_eq_some hfound).resolve_left (by simp)
    · cases hselected
  obtain ⟨input, -, hwraps⟩ := h.exists_input hentry
  obtain rfl := hwraps.unwrapEntry_eq_ok h.length (hwrong entry hentry) hkey
  exact Except.ok.inj (hok.symm.trans h.content)

theorem Seals.audience_holder (h : Seals c plaintext recipients ct enc cek)
    (hthumb : ThumbprintsDiffer c recipients) (hin : input ∈ recipients)
    (hscheme : input.scheme = derivationSchemeRoleAudience) (hlen : priv.length = 32)
    (hpub : c.x25519Base priv = input.publicKey) :
    ∃ d, newRoleAudienceDecrypter c priv = .ok d ∧ d.decrypt c ct (some enc) = .ok plaintext := by
  refine ⟨⟨priv, thumbprintForPublicKey c input.publicKey⟩, ?_, ?_⟩
  · rw [newRoleAudienceDecrypter, x25519PublicKey_ok hlen, ok_bind, hpub]
    rfl
  · obtain ⟨own, hown, hwraps⟩ := exists_of_forall₂ h.entries hin
    simp only [RoleAudienceDecrypter.decrypt]
    split
    · next hnone =>
      rw [List.find?_eq_none] at hnone
      exact absurd (by simp [hwraps.scheme, hscheme, hwraps.keyID]) (hnone own hown)
    · next entry hsome =>
      have hid : entry.keyID = thumbprintForPublicKey c input.publicKey := by
        have hfound := List.find?_some hsome
        simp only [decide_eq_true_eq] at hfound
        exact hfound.2
      rw [h.unwrapEntry_holder hthumb hin hlen hpub (List.mem_of_find?_eq_some hsome) hid,
        mapError_ok, ok_bind]
      exact h.content

theorem Seals.audience_eq_ok (h : Seals c plaintext recipients ct enc cek)
    (hwrong : WrongKeysFailIn c enc) {d : RoleAudienceDecrypter} {result : Bytes}
    (hok : d.decrypt c ct (some enc) = .ok result) : result = plaintext := by
  simp only [RoleAudienceDecrypter.decrypt] at hok
  split at hok
  · cases hok
  · next entry hsome =>
    rw [bind_eq_ok] at hok
    obtain ⟨key, hkey, hok⟩ := hok
    have hentry := List.mem_of_find?_eq_some hsome
    obtain ⟨input, -, hwraps⟩ := h.exists_input hentry
    obtain rfl := hwraps.unwrapEntry_eq_ok h.length (hwrong entry hentry) (mapError_eq_ok.mp hkey)
    exact Except.ok.inj (hok.symm.trans h.content)

end Envelope

end Meshd.Dwn.Crypto

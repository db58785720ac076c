import Meshd.Did.Jwk
import Meshd.Framework.Search
import Meshd.Framework.Strings
import Meshd.Framework.Utf8
import Mathlib.Data.List.DropRight

namespace Meshd.Wallet.Connect

open Meshd.Framework Strings

/-! The encrypted connect response, which the PIN that the user enters is bound to. -/

def quoteByte : UInt8 := 34

def backslashByte : UInt8 := 92

def braceByte : UInt8 := 125

/-- Every quote has a backslash in front of it. -/
def Escaped (body : Bytes) : Prop :=
  ∀ front rest, body = front ++ quoteByte :: rest → ∃ front', front = front' ++ [backslashByte]

/-- A JSON encoder of strings. -/
structure StringEncoder where
  encode : String → Bytes
  injective : Function.Injective encode
  quoted : ∀ s, ∃ body, encode s = quoteByte :: (body ++ [quoteByte]) ∧ Escaped body

variable (encoder : StringEncoder)

/-- The encoder ends its text with a line feed. -/
def jsonStringifyString (s : String) : Bytes :=
  (encoder.encode s ++ [10]).rdropWhile (· == 10)

def pinMember : Bytes := ascii ",\"pin\":"

def spliceHeaderPIN (headerRaw : Bytes) (pin : String) : Except String Bytes :=
  if pin = "" then .ok headerRaw
  else if headerRaw.getLast? ≠ some braceByte then .error "jwe protected header is not a JSON object"
  else .ok (headerRaw.dropLast ++ pinMember ++ jsonStringifyString encoder pin ++ [braceByte])

/-- What the decryption takes from other packages. -/
structure ResponsePackages where
  encoder : StringEncoder
  /-- `json.Unmarshal` of a protected header: its `epk` -/
  unmarshalEPK : Bytes → Except String (Option Did.JWK)
  /-- a public key as a point of the Edwards curve and its Montgomery form -/
  bytesMontgomery : Bytes → Except String Bytes
  x25519 : Bytes → Bytes → Except String Bytes
  /-- HKDF-SHA256 without salt and info -/
  hkdf : Bytes → Buffer 32
  /-- XChaCha20-Poly1305 under a key, with a nonce, on a ciphertext with its tag and additional data -/
  openSealed : Buffer 32 → Buffer 24 → Bytes → Bytes → Option Bytes

variable (pkg : ResponsePackages)

def ed25519PubToX25519 (pub : Bytes) : Except String Bytes :=
  (pkg.bytesMontgomery pub).mapError ("parsing ed25519 public key: " ++ ·)

def deriveResponseSharedKey (x25519Priv peerEd25519Pub : Bytes) : Except String (Buffer 32) := do
  let peerX25519Pub ← ed25519PubToX25519 pkg peerEd25519Pub
  let shared ← (pkg.x25519 x25519Priv peerX25519Pub).mapError ("x25519 key agreement: " ++ ·)
  return pkg.hkdf shared

def decodeSegment (what text : String) : Except String Bytes :=
  match Base64.rawURLDecode text with
  | none => .error ("decoding jwe " ++ what ++ ": illegal base64 data")
  | some bytes => .ok bytes

/-- The public key of the header's `epk`. -/
def epkPublicKey (epk : Option Did.JWK) : Except String Bytes :=
  match epk with
  | none => .error "jwe protected header is missing required \"epk\" property"
  | some epk =>
    if epk.kty ≠ "OKP" ∨ epk.crv ≠ "Ed25519" then
      .error ("jwe epk must be an Ed25519 key, got kty=" ++ epk.kty ++ " crv=" ++ epk.crv)
    else do
      let epkPub ← decodeSegment "epk public key" epk.x
      if epkPub.length ≠ 32 then
        .error ("jwe epk public key has invalid length " ++ toString epkPub.length)
      else .ok epkPub

def openResponse (sharedKey : Buffer 32) (nonce ciphertext aad : Bytes) : Except String Bytes :=
  if h : nonce.length = 24 then
    match pkg.openSealed sharedKey ⟨nonce, h⟩ ciphertext aad with
    | none =>
      .error ("decrypting connect response (wrong PIN or corrupted response): " ++
        "chacha20poly1305: message authentication failed")
    | some plaintext => .ok plaintext
  else .error ("jwe nonce has invalid length " ++ toString nonce.length)

def decryptResponseJWE (jweCompact : String) (clientX25519Priv : Bytes) (pin : String) :
    Except String Bytes :=
  match split '.' jweCompact with
  | [headerText, _, nonceText, ciphertextText, tagText] => do
    let headerRaw ← decodeSegment "protected header" headerText
    let epk ← (pkg.unmarshalEPK headerRaw).mapError ("parsing jwe protected header: " ++ ·)
    let epkPub ← epkPublicKey epk
    let sharedKey ← deriveResponseSharedKey pkg clientX25519Priv epkPub
    let aad ← spliceHeaderPIN pkg.encoder headerRaw pin
    let nonce ← decodeSegment "nonce" nonceText
    let ciphertext ← decodeSegment "ciphertext" ciphertextText
    let tag ← decodeSegment "authentication tag" tagText
    openResponse pkg sharedKey nonce (ciphertext ++ tag) aad
  | parts => .error ("jwe must have 5 segments, got " ++ toString parts.length)

/-! ### The additional data -/

variable {encoder} {pkg}

theorem jsonStringifyString_eq (s : String) : jsonStringifyString encoder s = encoder.encode s := by
  obtain ⟨body, hbody, -⟩ := encoder.quoted s
  rw [jsonStringifyString, List.rdropWhile_concat_pos _ _ _ (by decide), hbody, ← List.cons_append,
    List.rdropWhile_concat_neg _ _ _ (by decide)]

/-- The text of a JSON object. -/
def IsObjectText (header : Bytes) : Prop := header.getLast? = some braceByte

theorem spliceHeaderPIN_eq {header : Bytes} {pin : String} (hheader : IsObjectText header)
    (hpin : pin ≠ "") :
    spliceHeaderPIN encoder header pin =
      .ok (header.dropLast ++ (pinMember ++ (encoder.encode pin ++ [braceByte]))) := by
  have hlast : header.getLast? = some braceByte := hheader
  rw [spliceHeaderPIN, if_neg hpin, if_neg (not_not.mpr hlast), jsonStringifyString_eq]
  simp only [List.append_assoc]

theorem isObjectText_of_spliceHeaderPIN {header aad : Bytes} {pin : String} (hpin : pin ≠ "")
    (h : spliceHeaderPIN encoder header pin = .ok aad) : IsObjectText header := by
  rw [spliceHeaderPIN, if_neg hpin, ite_error_eq_ok] at h
  exact not_not.mp h.1

theorem IsObjectText.eq_append {header : Bytes} (h : IsObjectText header) :
    header = header.dropLast ++ [braceByte] :=
  (List.dropLast_append_getLast? braceByte h).symm

/-- The member's name with the opening quote of its value does not stand in an escaped text, where
the quote in front of the name would have a backslash before it. -/
theorem Escaped.no_pinMember {body : Bytes} (h : Escaped body) (d y : Bytes) :
    body ≠ d ++ (pinMember ++ [quoteByte] ++ y) := by
  intro hbody
  obtain ⟨front, hfront⟩ := h (d ++ [44]) (ascii "pin\":" ++ quoteByte :: y) (by
    rw [hbody, List.append_assoc d]
    rfl)
  have hlast : (44 : UInt8) = backslashByte := List.singleton_inj.mp (List.append_inj' hfront rfl).2
  exact absurd hlast (by decide)

theorem encode_append_inj {a b : Bytes} {p q : String}
    (h : a ++ (pinMember ++ (encoder.encode p ++ [braceByte])) =
      b ++ (pinMember ++ (encoder.encode q ++ [braceByte]))) : a = b ∧ p = q := by
  obtain ⟨x, hx, hescx⟩ := encoder.quoted p
  obtain ⟨y, hy, hescy⟩ := encoder.quoted q
  -- without the last quote and brace, both texts end in an escaped one
  have hends : a ++ (pinMember ++ [quoteByte] ++ x) = b ++ (pinMember ++ [quoteByte] ++ y) := by
    have hclosed : a ++ (pinMember ++ [quoteByte] ++ x) ++ [quoteByte, braceByte] =
        b ++ (pinMember ++ [quoteByte] ++ y) ++ [quoteByte, braceByte] := by
      simpa [hx, hy] using h
    exact List.append_cancel_right hclosed
  have hcomma : (44 : UInt8) ∉ ascii "\"pin\":" ++ [quoteByte] := by decide
  obtain ⟨hab, hxy⟩ | ⟨d, hd⟩ | ⟨d, hd⟩ := append_word_eq hcomma hends
  · exact ⟨hab, encoder.injective (by rw [hx, hy, hxy])⟩
  · exact absurd hd (hescx.no_pinMember d y)
  · exact absurd hd (hescy.no_pinMember d x)

theorem spliceHeaderPIN_inj {h₁ h₂ : Bytes} {p₁ p₂ : String} (hh₁ : IsObjectText h₁)
    (hh₂ : IsObjectText h₂) (hp₁ : p₁ ≠ "") (hp₂ : p₂ ≠ "")
    (h : spliceHeaderPIN encoder h₁ p₁ = spliceHeaderPIN encoder h₂ p₂) : h₁ = h₂ ∧ p₁ = p₂ := by
  rw [spliceHeaderPIN_eq hh₁ hp₁, spliceHeaderPIN_eq hh₂ hp₂] at h
  obtain ⟨hfront, hpin⟩ := encode_append_inj (Except.ok.inj h)
  exact ⟨by rw [hh₁.eq_append, hh₂.eq_append, hfront], hpin⟩

/-! ### The encoder of `encoding/json` -/

theorem quote_not_mem_unicodeEscape (n : Nat) : '"' ∉ JsonText.unicodeEscape n := by
  have hdigit : ∀ n < 16, '"' ≠ hexDigit n := by decide
  simp only [JsonText.unicodeEscape, List.mem_cons, List.not_mem_nil, or_false, not_or]
  exact ⟨by decide, by decide, hdigit _ (Nat.mod_lt _ (by decide)), hdigit _ (Nat.mod_lt _ (by decide)),
    hdigit _ (Nat.mod_lt _ (by decide)), hdigit _ (Nat.mod_lt _ (by decide))⟩

theorem eq_quote_of_mem_escapePlain {ch : Char} (h : '"' ∈ JsonText.escapePlain ch) : ch = '"' := by
  rw [JsonText.escapePlain, JsonText.escape] at h
  split_ifs at h with hhtml hq hb hf hn hr ht hu
  · exact (List.mem_singleton.mp h).symm
  · obtain rfl | rfl := hq
    · rfl
    · exact absurd h (by decide)
  · exact absurd h (by decide)
  · exact absurd h (by decide)
  · exact absurd h (by decide)
  · exact absurd h (by decide)
  · exact absurd h (by decide)
  · exact absurd h (quote_not_mem_unicodeEscape _)
  · exact (List.mem_singleton.mp h).symm

theorem escaped_of_not_mem {body : Bytes} (h : quoteByte ∉ body) : Escaped body := by
  rintro front rest rfl
  simp at h

theorem Escaped.append {a b : Bytes} (ha : Escaped a) (hb : Escaped b) : Escaped (a ++ b) := by
  intro front rest h
  obtain ⟨d, rfl, hd⟩ | ⟨d, rfl, hd⟩ := List.append_eq_append_iff.mp h
  · obtain ⟨front', rfl⟩ := hb d rest hd
    exact ⟨a ++ front', (List.append_assoc _ _ _).symm⟩
  · cases d with
    | nil =>
      obtain ⟨front', hfront'⟩ := hb [] rest hd.symm
      simp at hfront'
    | cons c d =>
      obtain ⟨rfl, -⟩ := List.cons.inj hd
      exact ha front d rfl

theorem escaped_utf8 (ch : Char) :
    Escaped ((JsonText.escapePlain ch).flatMap String.utf8EncodeChar) := by
  by_cases hch : ch = '"'
  · subst hch
    have hbytes : (JsonText.escapePlain '"').flatMap String.utf8EncodeChar =
        [backslashByte, quoteByte] := by decide
    rw [hbytes]
    intro front rest h
    cases front with
    | nil => exact absurd (List.cons.inj h).1 (by decide)
    | cons c front =>
      obtain ⟨rfl, h⟩ := List.cons.inj h
      cases front with
      | nil => exact ⟨[], rfl⟩
      | cons c' front => simp at h
  · refine escaped_of_not_mem fun hmem => hch (eq_quote_of_mem_escapePlain ?_)
    obtain ⟨c, hc, hbyte⟩ := List.mem_flatMap.mp hmem
    have hnat := (JsonText.eq_of_mem_utf8EncodeChar (by decide) hbyte).1
    have hquote : c = '"' := Char.ext (UInt32.toNat_inj.mp hnat)
    exact hquote ▸ hc

/-- `encoding/json` without HTML escapes. -/
def goStringEncoder : StringEncoder where
  encode s := JsonText.utf8 (String.ofList ('"' :: (s.toList.flatMap JsonText.escapePlain ++ ['"'])))
  injective := by
    intro s t h
    have hchars := String.ofList_injective (JsonText.utf8_injective h)
    have hs := JsonText.stringBody_flatMap JsonText.escapes_escapePlain s.toList []
    have ht := JsonText.stringBody_flatMap JsonText.escapes_escapePlain t.toList []
    rw [(List.cons.inj hchars).2, ht] at hs
    simpa using hs.symm
  quoted s := by
    refine ⟨(s.toList.flatMap JsonText.escapePlain).flatMap String.utf8EncodeChar, ?_, ?_⟩
    · rw [JsonText.utf8_eq_flatMap, String.toList_ofList, List.flatMap_cons, List.flatMap_append]
      rfl
    · induction s.toList with
      | nil => exact escaped_of_not_mem (by simp)
      | cons ch chars ih =>
        rw [List.flatMap_cons, List.flatMap_append]
        exact (escaped_utf8 ch).append ih

/-! ### What is authenticated -/

/-- A response that a wallet has sealed for a header and a PIN. -/
structure SealedResponse where
  header : Bytes
  pin : String
  key : Buffer 32
  nonce : Buffer 24
  plaintext : Bytes
  /-- the ciphertext with its tag -/
  ciphertext : Bytes
  header_object : IsObjectText header
  pin_ne : pin ≠ ""

/-- What opens has been sealed, with the same key, nonce and additional data. -/
def Authenticates (pkg : ResponsePackages) (sealings : List SealedResponse) : Prop :=
  ∀ key nonce ciphertext aad plaintext, pkg.openSealed key nonce ciphertext aad = some plaintext →
    ∃ s ∈ sealings, s.key = key ∧ s.nonce = nonce ∧ s.ciphertext = ciphertext ∧
      s.plaintext = plaintext ∧ spliceHeaderPIN pkg.encoder s.header s.pin = .ok aad

theorem openResponse_eq_ok {sharedKey : Buffer 32} {nonce ciphertext aad plaintext : Bytes} :
    openResponse pkg sharedKey nonce ciphertext aad = .ok plaintext ↔
      ∃ h, pkg.openSealed sharedKey ⟨nonce, h⟩ ciphertext aad = some plaintext := by
  rw [openResponse]
  split
  · next h =>
    cases hopen : pkg.openSealed sharedKey ⟨nonce, h⟩ ciphertext aad with
    | none => simp [h, hopen]
    | some p => simp [h, hopen]
  · next h => simp [h]

/-- The header, the ciphertext and the tag of a response in its compact form. -/
def responseParts (jweCompact : String) : Option (Bytes × Bytes) :=
  match split '.' jweCompact with
  | [headerText, _, _, ciphertextText, tagText] => do
    return (← Base64.rawURLDecode headerText,
      (← Base64.rawURLDecode ciphertextText) ++ (← Base64.rawURLDecode tagText))
  | _ => none

theorem decodeSegment_eq_ok {what text : String} {bytes : Bytes} :
    decodeSegment what text = .ok bytes ↔ Base64.rawURLDecode text = some bytes := by
  rw [decodeSegment]
  cases Base64.rawURLDecode text with
  | none => simp
  | some b => simp

theorem decryptResponseJWE_ok {jweCompact : String} {priv plaintext : Bytes} {pin : String}
    (h : decryptResponseJWE pkg jweCompact priv pin = .ok plaintext) :
    ∃ header ciphertext aad key nonce, responseParts jweCompact = some (header, ciphertext) ∧
      spliceHeaderPIN pkg.encoder header pin = .ok aad ∧
      pkg.openSealed key nonce ciphertext aad = some plaintext := by
  rw [decryptResponseJWE] at h
  split at h
  · next headerText _ nonceText ciphertextText tagText hsplit =>
    obtain ⟨header, hheader, h⟩ := bind_eq_ok.mp h
    obtain ⟨epk, -, h⟩ := bind_eq_ok.mp h
    obtain ⟨epkPub, -, h⟩ := bind_eq_ok.mp h
    obtain ⟨key, -, h⟩ := bind_eq_ok.mp h
    obtain ⟨aad, haad, h⟩ := bind_eq_ok.mp h
    obtain ⟨nonce, -, h⟩ := bind_eq_ok.mp h
    obtain ⟨ciphertext, hciphertext, h⟩ := bind_eq_ok.mp h
    obtain ⟨tag, htag, h⟩ := bind_eq_ok.mp h
    obtain ⟨hnonce, hopen⟩ := openResponse_eq_ok.mp h
    refine ⟨header, ciphertext ++ tag, aad, key, ⟨nonce, hnonce⟩, ?_, haad, hopen⟩
    rw [decodeSegment_eq_ok] at hheader hciphertext htag
    simp [responseParts, hsplit, hheader, hciphertext, htag]
  · cases h

/-- The additional data determines the header and the PIN. So where only what was sealed opens, a
response decrypts under no header and PIN but those it was sealed for. -/
theorem response_bound_to_pin (pkg : ResponsePackages) :
    (∀ (h₁ h₂ : Bytes) (p₁ p₂ : String),
      IsObjectText h₁ → IsObjectText h₂ → p₁ ≠ "" → p₂ ≠ "" →
      spliceHeaderPIN pkg.encoder h₁ p₁ = spliceHeaderPIN pkg.encoder h₂ p₂ → h₁ = h₂ ∧ p₁ = p₂) ∧
    ∀ (sealings : List SealedResponse) (jweCompact : String) (priv plaintext : Bytes) (pin : String),
      Authenticates pkg sealings → pin ≠ "" →
      decryptResponseJWE pkg jweCompact priv pin = .ok plaintext →
      ∃ s ∈ sealings, s.pin = pin ∧ s.plaintext = plaintext ∧
        responseParts jweCompact = some (s.header, s.ciphertext) := by
  refine ⟨fun h₁ h₂ p₁ p₂ => spliceHeaderPIN_inj, ?_⟩
  intro sealings jweCompact priv plaintext pin hauth hpin h
  obtain ⟨header, ciphertext, aad, key, nonce, hparts, haad, hopen⟩ := decryptResponseJWE_ok h
  obtain ⟨s, hs, -, -, rfl, rfl, hsealed⟩ := hauth _ _ _ _ _ hopen
  have hobject := isObjectText_of_spliceHeaderPIN hpin haad
  obtain ⟨rfl, rfl⟩ :=
    spliceHeaderPIN_inj s.header_object hobject s.pin_ne hpin (hsealed.trans haad.symm)
  exact ⟨s, hs, rfl, rfl, hparts⟩

/-- A response sealed for a header without members and the PIN `1234`. -/
def sealedResponse : SealedResponse where
  header := ascii "\x7b \x7d"
  pin := "1234"
  key := Buffer.copy 32 []
  nonce := Buffer.copy 24 []
  plaintext := [1]
  ciphertext := [2, 3]
  header_object := rfl
  pin_ne := by decide

/-- Packages that open this response and no other. -/
def sealingPackages : ResponsePackages where
  encoder := goStringEncoder
  unmarshalEPK _ := .ok (some ⟨"OKP", "Ed25519", String.ofList (List.replicate 43 'A')⟩)
  bytesMontgomery := .ok
  x25519 _ point := .ok point
  hkdf _ := Buffer.copy 32 []
  openSealed key nonce ciphertext aad :=
    if key = sealedResponse.key ∧ nonce = sealedResponse.nonce ∧
        ciphertext = sealedResponse.ciphertext ∧ aad = ascii "\x7b ,\"pin\":\"1234\"\x7d" then
      some sealedResponse.plaintext
    else none

theorem splice_sealedResponse :
    spliceHeaderPIN goStringEncoder sealedResponse.header sealedResponse.pin =
      .ok (ascii "\x7b ,\"pin\":\"1234\"\x7d") := by
  decide

theorem authenticates_sealingPackages : Authenticates sealingPackages [sealedResponse] := by
  intro key nonce ciphertext aad plaintext h
  simp only [sealingPackages, Option.ite_none_right_eq_some] at h
  obtain ⟨⟨rfl, rfl, rfl, rfl⟩, h⟩ := h
  exact ⟨sealedResponse, List.mem_singleton_self _, rfl, rfl, rfl, Option.some.inj h,
    splice_sealedResponse⟩

theorem decrypt_sealedResponse :
    decryptResponseJWE sealingPackages
      ("eyB9.." ++ String.ofList (List.replicate 32 'A') ++ ".Ag.Aw") [] "1234" = .ok [1] := by
  decide +kernel

theorem sealedResponse_bound_to_pin :
    ∃ s ∈ [sealedResponse], s.pin = "1234" ∧ s.plaintext = [1] ∧
      responseParts ("eyB9.." ++ String.ofList (List.replicate 32 'A') ++ ".Ag.Aw") =
        some (s.header, s.ciphertext) :=
  (response_bound_to_pin sealingPackages).2 [sealedResponse] _ [] [1] "1234"
    authenticates_sealingPackages (by decide) decrypt_sealedResponse

end Meshd.Wallet.Connect

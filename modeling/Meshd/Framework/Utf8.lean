import Meshd.Framework.JsonText

namespace Meshd.Framework.JsonText

/-! The bytes of a text. -/

theorem utf8_eq_flatMap (s : String) : utf8 s = s.toList.flatMap String.utf8EncodeChar := by
  have hbytes : s.toByteArray = s.toList.utf8Encode := by
    rw [← String.toByteArray_ofList, String.ofList_toList]
  rw [utf8, hbytes, List.utf8Encode]
  simp

theorem utf8_injective : Function.Injective utf8 := by
  intro s t h
  have hsome : some s = some t := by rw [← ofUtf8_utf8, h, ofUtf8_utf8]
  exact Option.some.inj hsome

/-- A byte below 128 stands for the character of that number, and for no part of another one. -/
theorem eq_of_mem_utf8EncodeChar {c : Char} {b : UInt8} (hb : b.toNat < 128)
    (h : b ∈ String.utf8EncodeChar c) : c.toNat = b.toNat ∧ String.utf8EncodeChar c = [b] := by
  have hc : c.val.toNat = c.toNat := rfl
  have hhigh : ∀ n, 128 ≤ n → n < 256 → b ≠ UInt8.ofNat n := by
    rintro n hn hn' rfl
    rw [UInt8.toNat_ofNat_of_lt' hn'] at hb
    omega
  simp only [String.utf8EncodeChar, hc] at h ⊢
  split_ifs at h ⊢ with h₁ h₂ h₃
  · obtain rfl := List.mem_singleton.mp h
    exact ⟨(UInt8.toNat_ofNat_of_lt' (show c.toNat < 256 by omega)).symm, rfl⟩
  · simp only [List.mem_cons, List.not_mem_nil, or_false] at h
    rcases h with h | h
    · exact absurd h (hhigh _ (by omega) (by omega))
    · exact absurd h (hhigh _ (by omega) (by omega))
  · simp only [List.mem_cons, List.not_mem_nil, or_false] at h
    rcases h with h | h | h
    · exact absurd h (hhigh _ (by omega) (by omega))
    · exact absurd h (hhigh _ (by omega) (by omega))
    · exact absurd h (hhigh _ (by omega) (by omega))
  · simp only [List.mem_cons, List.not_mem_nil, or_false] at h
    rcases h with h | h | h | h
    · exact absurd h (hhigh _ (by omega) (by omega))
    · exact absurd h (hhigh _ (by omega) (by omega))
    · exact absurd h (hhigh _ (by omega) (by omega))
    · exact absurd h (hhigh _ (by omega) (by omega))

/-! ### ASCII words -/

/-- The UTF-8 bytes of a list of characters. -/
def encodeChars (cs : List Char) : Bytes := cs.flatMap String.utf8EncodeChar

theorem utf8_ofList (cs : List Char) : utf8 (String.ofList cs) = encodeChars cs := by
  rw [utf8_eq_flatMap, String.toList_ofList, encodeChars]

@[simp] theorem encodeChars_append (a b : List Char) :
    encodeChars (a ++ b) = encodeChars a ++ encodeChars b := List.flatMap_append

theorem utf8EncodeChar_ascii {c : Char} (h : c.toNat < 128) :
    String.utf8EncodeChar c = [UInt8.ofNat c.toNat] := by
  have hc : c.val.toNat = c.toNat := rfl
  rw [String.utf8EncodeChar]
  simp only [hc]
  rw [if_pos (by omega)]

theorem encodeChars_ascii {cs : List Char} (h : ∀ c ∈ cs, c.toNat < 128) :
    encodeChars cs = latin1 cs := by
  induction cs with
  | nil => rfl
  | cons c cs ih =>
    rw [List.forall_mem_cons] at h
    rw [encodeChars, List.flatMap_cons, utf8EncodeChar_ascii h.1]
    exact congrArg _ (ih h.2)

/-- A character that begins with the byte of an ASCII one is that. -/
theorem eq_of_utf8EncodeChar_mem {c d : Char} (hd : d.toNat < 128)
    (h : UInt8.ofNat d.toNat ∈ String.utf8EncodeChar c) : c = d := by
  have hbyte : (UInt8.ofNat d.toNat).toNat = d.toNat :=
    UInt8.toNat_ofNat_of_lt' (show d.toNat < 256 by omega)
  have hnat := (eq_of_mem_utf8EncodeChar (by rw [hbyte]; exact hd) h).1
  rw [hbyte] at hnat
  exact Char.ext (UInt32.toNat_inj.mp hnat)

/-- A text whose bytes begin with those of an ASCII word begins with the word. -/
theorem exists_append_of_encodeChars {word text : List Char} {back : Bytes}
    (hword : ∀ c ∈ word, c.toNat < 128) (h : encodeChars text = encodeChars word ++ back) :
    ∃ rest, text = word ++ rest ∧ encodeChars rest = back := by
  induction word generalizing text with
  | nil => exact ⟨text, rfl, h⟩
  | cons d word ih =>
    rw [List.forall_mem_cons] at hword
    have hd := utf8EncodeChar_ascii hword.1
    cases text with
    | nil => simp [encodeChars, hd] at h
    | cons c text =>
      simp only [encodeChars, List.flatMap_cons, hd, List.cons_append] at h
      have hmem : UInt8.ofNat d.toNat ∈ String.utf8EncodeChar c := by
        cases hc : String.utf8EncodeChar c with
        | nil =>
          have hlen := String.length_utf8EncodeChar c
          rw [hc] at hlen
          exact absurd c.utf8Size_pos (by simp [← hlen])
        | cons b bs =>
          rw [hc] at h
          rw [(List.cons.inj h).1]
          exact List.mem_cons_self
      obtain rfl := eq_of_utf8EncodeChar_mem hword.1 hmem
      rw [hd, List.singleton_append] at h
      obtain ⟨rest, rfl, hrest⟩ := ih hword.2 (List.cons.inj h).2
      exact ⟨rest, rfl, hrest⟩

/-- Where the bytes of an ASCII word stand in those of a text, the word stands in the text. -/
theorem exists_split_of_encodeChars {d : Char} {word text : List Char} {front back : Bytes}
    (hword : ∀ c ∈ d :: word, c.toNat < 128)
    (h : encodeChars text = front ++ (encodeChars (d :: word) ++ back)) :
    ∃ front' back', text = front' ++ (d :: word ++ back') ∧ encodeChars front' = front ∧
      encodeChars back' = back := by
  induction text generalizing front with
  | nil =>
    have hd := utf8EncodeChar_ascii (hword d List.mem_cons_self)
    simp [encodeChars, hd] at h
  | cons c text ih =>
    have hcons : encodeChars (c :: text) = String.utf8EncodeChar c ++ encodeChars text := rfl
    have hd : encodeChars (d :: word) = UInt8.ofNat d.toNat :: encodeChars word := by
      rw [encodeChars, List.flatMap_cons, utf8EncodeChar_ascii (hword d List.mem_cons_self)]
      rfl
    obtain ⟨more, hmore, hrest⟩ | ⟨more, hmore, hrest⟩ :=
      List.append_eq_append_iff.mp (hcons.symm.trans h)
    · obtain ⟨front', back', rfl, hfront', hback'⟩ := ih hrest
      refine ⟨c :: front', back', rfl, ?_, hback'⟩
      rw [hmore, ← hfront']
      rfl
    · -- the word begins inside the bytes of `c` or right behind them
      cases more with
      | nil =>
        rw [List.append_nil] at hmore
        obtain ⟨rest, rfl, hback⟩ := exists_append_of_encodeChars hword hrest.symm
        exact ⟨[c], rest, rfl, by simp [encodeChars, hmore], hback⟩
      | cons b more =>
        rw [hd, List.cons_append, List.cons_append] at hrest
        have hb : UInt8.ofNat d.toNat = b := (List.cons.inj hrest).1
        have hmem : UInt8.ofNat d.toNat ∈ String.utf8EncodeChar c := by
          rw [hmore, hb]
          simp
        obtain rfl := eq_of_utf8EncodeChar_mem (hword d List.mem_cons_self) hmem
        rw [utf8EncodeChar_ascii (hword c List.mem_cons_self)] at hmore
        have hfront : front = [] := by
          cases front with
          | nil => rfl
          | cons f front => simp at hmore
        subst hfront
        obtain ⟨rest, htext, hback⟩ := exists_append_of_encodeChars hword h
        exact ⟨[], rest, htext, rfl, hback⟩

/-! ### The runes of a Go string -/

/-- A character of a Go string, or a byte that is part of none, with its bytes. -/
structure Rune where
  char : Option Char
  bytes : Bytes
deriving DecidableEq

/-- The character at the beginning of a byte string. -/
def decodeRune (bytes : Bytes) : Option Char := bytes.toByteArray.utf8DecodeChar? 0

/-- The runes that a `range` over a string yields. -/
def runes : Bytes → List Rune
  | [] => []
  | b :: rest =>
    match decodeRune (b :: rest) with
    | some c => ⟨some c, String.utf8EncodeChar c⟩ :: runes (rest.drop (c.utf8Size - 1))
    | none => ⟨none, [b]⟩ :: runes rest
termination_by bytes => bytes.length
decreasing_by
  · simp only [List.length_drop, List.length_cons]
    omega
  · simp

def runeBytes (rs : List Rune) : Bytes := rs.flatMap Rune.bytes

theorem decodeRune_append (c : Char) (rest : Bytes) :
    decodeRune (String.utf8EncodeChar c ++ rest) = some c := by
  have hone : [c].utf8Encode.utf8DecodeChar? 0 = some c := List.utf8DecodeChar?_utf8Encode_singleton
  have happ := ByteArray.utf8DecodeChar?_append_eq_some hone rest.toByteArray
  rw [decodeRune, List.toByteArray_append]
  simpa [List.utf8Encode] using happ

theorem exists_of_decodeRune {bytes : Bytes} {c : Char} (h : decodeRune bytes = some c) :
    ∃ rest, bytes = String.utf8EncodeChar c ++ rest := by
  obtain ⟨l, hl⟩ := ByteArray.exists_of_utf8DecodeChar?_eq_some h
  refine ⟨l.data.toList, ?_⟩
  have hlist := congrArg (fun a => a.data.toList) hl
  simpa [List.utf8Encode] using hlist

/-- No byte is lost. -/
theorem runeBytes_runes (bytes : Bytes) : runeBytes (runes bytes) = bytes := by
  fun_induction runes bytes with
  | case1 => rfl
  | case2 b rest c hc ih =>
    obtain ⟨more, hmore⟩ := exists_of_decodeRune hc
    have hrest : rest.drop (c.utf8Size - 1) = more := by
      rw [← List.drop_succ_cons (a := b), hmore, Nat.sub_add_cancel c.utf8Size_pos]
      exact List.drop_left' (String.length_utf8EncodeChar c)
    rw [runeBytes, List.flatMap_cons, ← runeBytes, ih, hrest, hmore]
  | case3 b rest hb ih =>
    rw [runeBytes, List.flatMap_cons, ← runeBytes, ih]
    rfl

theorem bytes_of_mem_runes {bytes : Bytes} {r : Rune} {c : Char} (h : r ∈ runes bytes)
    (hc : r.char = some c) : r.bytes = String.utf8EncodeChar c := by
  fun_induction runes bytes with
  | case1 => cases h
  | case2 b rest d hd ih =>
    rcases List.mem_cons.mp h with rfl | h
    · rw [← Option.some.inj hc]
    · exact ih h
  | case3 b rest hb ih =>
    rcases List.mem_cons.mp h with rfl | h
    · cases hc
    · exact ih h

/-- The rune of a character. -/
def charRune (c : Char) : Rune := ⟨some c, String.utf8EncodeChar c⟩

theorem runes_encodeChars (cs : List Char) : runes (encodeChars cs) = cs.map charRune := by
  induction cs with
  | nil => simp [encodeChars, runes]
  | cons c cs ih =>
    have hcons : encodeChars (c :: cs) = String.utf8EncodeChar c ++ encodeChars cs := rfl
    have hlen := String.length_utf8EncodeChar c
    have hpos := c.utf8Size_pos
    cases hc : String.utf8EncodeChar c with
    | nil => simp [hc] at hlen; omega
    | cons b bs =>
      have hdecode := decodeRune_append c (encodeChars cs)
      have hrest : (bs ++ encodeChars cs).drop (c.utf8Size - 1) = encodeChars cs := by
        rw [hc, List.length_cons] at hlen
        rw [List.drop_append_of_le_length (by omega), List.drop_eq_nil_of_le (by omega),
          List.nil_append]
      rw [hc, List.cons_append] at hdecode
      rw [hcons, hc, List.cons_append, runes, hdecode]
      simp only [hrest, ih]
      rfl

theorem runeBytes_map_charRune (cs : List Char) : runeBytes (cs.map charRune) = encodeChars cs := by
  rw [runeBytes, List.flatMap_map]
  rfl

end Meshd.Framework.JsonText

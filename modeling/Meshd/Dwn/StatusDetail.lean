import Meshd.Framework.Go
import Meshd.Framework.Search
import Meshd.Framework.Utf8
import Mathlib.Data.List.DropRight

namespace Meshd.Dwn

open Meshd.Framework JsonText

/-- `unicode.IsSpace`. -/
def isSpace (c : Char) : Bool :=
  c.toNat ∈ [9, 10, 11, 12, 13, 32, 0x85, 0xA0, 0x1680, 0x2028, 0x2029, 0x202F, 0x205F, 0x3000] ||
    (0x2000 ≤ c.toNat && c.toNat ≤ 0x200A)

def trimSpace (text : List Char) : List Char := (text.dropWhile isSpace).rdropWhile isSpace

namespace StatusDetail

/-! The detail of a status by its bytes. The offset of the marker is that in a lower-cased copy. -/

/-- `unicode.ToLower`. Two characters outside of ASCII have an ASCII letter as lower case. -/
structure CaseMap where
  lower : Char → Char
  ascii : ∀ c, c.toNat < 128 → lower c = c.toLower
  other : ∀ c, 128 ≤ c.toNat → (lower c).toNat < 128 → lower c = 'i' ∨ lower c = 'k'

def marker : List Char := "retry after ".toList

def isSpaceRune (r : Rune) : Bool := r.char.any isSpace

/-- `strings.TrimSpace`. -/
def trimSpaceBytes (s : Bytes) : Bytes :=
  runeBytes (((runes s).dropWhile isSpaceRune).rdropWhile isSpaceRune)

/-- `strings.Fields`. -/
def fields (s : Bytes) : List Bytes :=
  (((runes s).splitOnP isSpaceRune).filter (· ≠ [])).map runeBytes

/-- The bytes of `.`, `,` and `;`. -/
def isPunctuation (b : UInt8) : Bool := b = 46 || b = 44 || b = 59

section Code
variable (m : CaseMap) (parseDuration : Bytes → Option Duration)

/-- What follows the marker: its first word as a duration. -/
def delayIn (text : Bytes) : Option Duration :=
  match fields (trimSpaceBytes text) with
  | [] => none
  | field :: _ => do
    let retryAfter ← parseDuration (field.rdropWhile isPunctuation)
    if retryAfter < 0 then none else some retryAfter

/-- The outer `none` is the panic of a slice that begins behind the end of the text. -/
def retryAfterFromStatusDetail (detail : String) : Option (Option Duration) :=
  let lowerDetail := String.ofList (detail.toList.map m.lower)
  match lastIndexOf (encodeChars marker) (utf8 lowerDetail) with
  | none => some none
  | some markerIndex =>
    let start := markerIndex + (encodeChars marker).length
    if (utf8 detail).length < start then none
    else some (delayIn parseDuration ((utf8 detail).drop start))

end Code

/-! ### The marker in the text -/

/-- The marker in any letter case behind `front`, and not again in what follows. -/
structure LastMarker (detail : String) (front back : List Char) : Prop where
  split : ∃ mark, mark.map Char.toLower = marker ∧ detail.toList = front ++ (mark ++ back)
  last : ∀ front' mark back', mark.map Char.toLower = marker →
    detail.toList = front' ++ (mark ++ back') → front'.length ≤ front.length

/-- The delay that the first word of a text denotes. -/
def denoted (parseDuration : Bytes → Option Duration) (back : List Char) : Option Duration :=
  let word := (back.dropWhile isSpace).takeWhile (!isSpace ·)
  if word = [] then none
  else do
    let retryAfter ← parseDuration (encodeChars (word.rdropWhile (· ∈ ['.', ',', ';'])))
    if retryAfter < 0 then none else some retryAfter

variable {m : CaseMap} {parseDuration : Bytes → Option Duration} {detail : String}
  {front back : List Char}

theorem marker_ascii : ∀ c ∈ marker, c.toNat < 128 := by
  intro c hc
  have hall : marker.all (fun c => decide (c.toNat < 128)) = true := by decide
  simpa using List.all_eq_true.mp hall c hc

theorem toLower_of_not_ascii {c : Char} (h : 128 ≤ c.toNat) : c.toLower = c := by
  have hc : c.toNat = c.val.toNat := rfl
  refine dif_neg ?_
  rintro ⟨-, hle⟩
  have hz : c.val.toNat ≤ 'Z'.val.toNat := hle
  have h90 : 'Z'.val.toNat = 90 := rfl
  omega

theorem lower_eq_iff (m : CaseMap) {c w : Char} (hw : w ∈ marker) :
    m.lower c = w ↔ c.toLower = w := by
  by_cases hc : c.toNat < 128
  · rw [m.ascii c hc]
  · have hge : 128 ≤ c.toNat := by omega
    have hsmall := marker_ascii w hw
    rw [toLower_of_not_ascii hge]
    refine iff_of_false (fun h => ?_) (fun h => ?_)
    · have hik := m.other c hge (by rw [h]; exact hsmall)
      rw [h] at hik
      rcases hik with rfl | rfl
      · exact absurd hw (by decide)
      · exact absurd hw (by decide)
    · rw [h] at hge
      omega

theorem map_lower_eq_iff (m : CaseMap) {mark word : List Char} (hword : ∀ c ∈ word, c ∈ marker) :
    mark.map m.lower = word ↔ mark.map Char.toLower = word := by
  induction mark generalizing word with
  | nil => rfl
  | cons c mark ih =>
    cases word with
    | nil => simp
    | cons w word =>
      rw [List.forall_mem_cons] at hword
      rw [List.map_cons, List.map_cons, List.cons.injEq, List.cons.injEq, lower_eq_iff m hword.1,
        ih hword.2]

/-- The marker stands in the lower-cased text where it stands in the text. -/
theorem LastMarker.lastAt (h : LastMarker detail front back) (m : CaseMap) :
    LastAt (encodeChars marker) (encodeChars (detail.toList.map m.lower))
      (encodeChars (front.map m.lower)) (encodeChars (back.map m.lower)) := by
  obtain ⟨mark, hmark, hsplit⟩ := h.split
  have hlower := (map_lower_eq_iff m (fun _ hc => hc)).mpr hmark
  constructor
  · rw [hsplit, List.map_append, List.map_append, hlower, encodeChars_append, encodeChars_append]
  · intro front' back' heq
    obtain ⟨lfront, lback, htext, rfl, -⟩ := exists_split_of_encodeChars marker_ascii heq
    obtain ⟨front₁, rest, hdetail, rfl, hrest⟩ := List.map_eq_append_iff.mp htext
    obtain ⟨mark₁, back₁, rfl, hmark₁, -⟩ := List.map_eq_append_iff.mp hrest
    have hle := h.last front₁ mark₁ back₁
      ((map_lower_eq_iff m (fun _ hc => hc)).mp hmark₁) hdetail
    -- the earlier occurrence has a shorter text before it
    have hpre : front₁ <+: front := by
      rw [hsplit] at hdetail
      exact List.prefix_of_prefix_length_le ⟨_, hdetail.symm⟩ ⟨_, rfl⟩ hle
    obtain ⟨more, rfl⟩ := hpre
    rw [List.map_append, encodeChars_append, List.length_append]
    exact Nat.le_add_right _ _

/-! ### The first word -/

@[simp] theorem isSpaceRune_charRune (c : Char) : isSpaceRune (charRune c) = isSpace c := rfl

theorem trimSpaceBytes_encodeChars (cs : List Char) :
    trimSpaceBytes (encodeChars cs) = encodeChars (trimSpace cs) := by
  have hspace : isSpaceRune ∘ charRune = isSpace := rfl
  rw [trimSpaceBytes, runes_encodeChars, List.rdropWhile, List.dropWhile_map, hspace,
    ← List.map_reverse, List.dropWhile_map, hspace, ← List.map_reverse, runeBytes_map_charRune]
  rfl

theorem head?_fields_encodeChars (cs : List Char) :
    (fields (encodeChars cs)).head? =
      if (cs.dropWhile isSpace).takeWhile (!isSpace ·) = [] then none
      else some (encodeChars ((cs.dropWhile isSpace).takeWhile (!isSpace ·))) := by
  have hspace : isSpaceRune ∘ charRune = isSpace := rfl
  have hword : ((cs.map charRune).dropWhile isSpaceRune).takeWhile (!isSpaceRune ·) =
      ((cs.dropWhile isSpace).takeWhile (!isSpace ·)).map charRune := by
    rw [List.dropWhile_map, hspace, List.takeWhile_map]
    rfl
  rw [fields, List.head?_map, runes_encodeChars, head?_filter_splitOnP, hword]
  split_ifs with hnil hnil' hnil'
  · rfl
  · exact absurd (List.map_eq_nil_iff.mp hnil) hnil'
  · exact absurd (by rw [hnil', List.map_nil]) hnil
  · rw [Option.map_some, runeBytes_map_charRune]

/-- Trimming does not touch the first word. -/
theorem firstWord_trimSpace (cs : List Char) :
    ((trimSpace cs).dropWhile isSpace).takeWhile (!isSpace ·) =
      (cs.dropWhile isSpace).takeWhile (!isSpace ·) := by
  set d := cs.dropWhile isSpace with hd
  have hsplit : d.rdropWhile isSpace ++ d.rtakeWhile isSpace = d := List.rdropWhile_append_rtakeWhile
  have hspaces : ∀ c ∈ d.rtakeWhile isSpace, isSpace c = true := fun c => List.mem_rtakeWhile_imp
  have hfirst : (d.rdropWhile isSpace).dropWhile isSpace = d.rdropWhile isSpace := by
    cases hinit : d.rdropWhile isSpace with
    | nil => rfl
    | cons c init =>
      have hhead := List.head?_dropWhile_not isSpace cs
      rw [← hd, ← hsplit, hinit] at hhead
      exact List.dropWhile_cons_of_neg (by simpa using hhead)
  rw [trimSpace, ← hd, hfirst]
  conv_rhs => rw [← hsplit]
  exact (takeWhile_append_of_all hspaces).symm

theorem isPunctuation_last {c : Char} {bs : Bytes} {b : UInt8}
    (h : String.utf8EncodeChar c = bs ++ [b]) (hb : isPunctuation b = true) :
    c ∈ ['.', ',', ';'] := by
  have hmem : b ∈ String.utf8EncodeChar c := by simp [h]
  have hbyte : b = UInt8.ofNat '.'.toNat ∨ b = UInt8.ofNat ','.toNat ∨ b = UInt8.ofNat ';'.toNat := by
    simpa [isPunctuation, or_assoc] using hb
  rcases hbyte with rfl | rfl | rfl
  · rw [eq_of_utf8EncodeChar_mem (by decide) hmem]
    simp
  · rw [eq_of_utf8EncodeChar_mem (by decide) hmem]
    simp
  · rw [eq_of_utf8EncodeChar_mem (by decide) hmem]
    simp

theorem rdropWhile_encodeChars (word : List Char) :
    (encodeChars word).rdropWhile isPunctuation =
      encodeChars (word.rdropWhile (· ∈ ['.', ',', ';'])) := by
  induction word using List.reverseRecOn with
  | nil => rfl
  | append_singleton word c ih =>
    have hone : encodeChars [c] = String.utf8EncodeChar c := by simp [encodeChars]
    rw [encodeChars_append, hone]
    by_cases hc : c ∈ ['.', ',', ';']
    · have hbyte : ∃ b, String.utf8EncodeChar c = [b] ∧ isPunctuation b = true := by
        simp only [List.mem_cons, List.not_mem_nil, or_false] at hc
        rcases hc with rfl | rfl | rfl
        · exact ⟨46, by decide, by decide⟩
        · exact ⟨44, by decide, by decide⟩
        · exact ⟨59, by decide, by decide⟩
      obtain ⟨b, hb, hpunct⟩ := hbyte
      rw [hb, List.rdropWhile_concat_pos _ _ _ hpunct, ih,
        List.rdropWhile_concat_pos _ _ _ (by simpa using hc)]
    · obtain ⟨bs, b, hb⟩ : ∃ bs b, String.utf8EncodeChar c = bs ++ [b] := by
        rcases List.eq_nil_or_concat (String.utf8EncodeChar c) with hnil | ⟨bs, b, hb⟩
        · have hlen := String.length_utf8EncodeChar c
          rw [hnil] at hlen
          exact absurd c.utf8Size_pos (by simp [← hlen])
        · exact ⟨bs, b, by rw [hb, List.concat_eq_append]⟩
      have hpunct : isPunctuation b = false := by
        by_contra hbad
        exact hc (isPunctuation_last hb (by simpa using hbad))
      rw [hb, ← List.append_assoc, List.rdropWhile_concat_neg _ _ _ (by simp [hpunct]),
        List.rdropWhile_concat_neg _ _ _ (by simpa using hc), encodeChars_append, hone, hb,
        List.append_assoc]

/-- On text, the delay is read as its first word denotes it. -/
theorem delayIn_encodeChars (back : List Char) :
    delayIn parseDuration (encodeChars back) = denoted parseDuration back := by
  have hhead := head?_fields_encodeChars (trimSpace back)
  rw [firstWord_trimSpace, ← trimSpaceBytes_encodeChars] at hhead
  rw [delayIn, denoted]
  cases hfields : fields (trimSpaceBytes (encodeChars back)) with
  | nil =>
    rw [hfields, List.head?_nil] at hhead
    split_ifs at hhead with hnil
    simp only [hnil, if_true]
  | cons field rest =>
    rw [hfields, List.head?_cons] at hhead
    split_ifs at hhead with hnil
    simp only [hnil, if_false, Option.some.inj hhead, rdropWhile_encodeChars]

/-! ### What is returned -/

/-- What a detail says: the delay that the first word after the last marker denotes. -/
def specified (parseDuration : Bytes → Option Duration) (detail : String) : Option Duration :=
  match lastIndexOf marker (detail.toList.map Char.toLower) with
  | none => none
  | some i => denoted parseDuration (detail.toList.drop (i + marker.length))

theorem marker_ne_nil : marker ≠ [] := by decide

theorem encodeChars_marker_ne_nil : encodeChars marker ≠ [] := by decide

theorem LastMarker.lastAt_toLower (h : LastMarker detail front back) :
    LastAt marker (detail.toList.map Char.toLower) (front.map Char.toLower)
      (back.map Char.toLower) := by
  obtain ⟨mark, hmark, hsplit⟩ := h.split
  constructor
  · rw [hsplit, List.map_append, List.map_append, hmark]
  · intro front' back' heq
    obtain ⟨front₁, rest, hdetail, rfl, hrest⟩ := List.map_eq_append_iff.mp heq
    obtain ⟨mark₁, back₁, rfl, hmark₁, -⟩ := List.map_eq_append_iff.mp hrest
    rw [List.length_map, List.length_map]
    exact h.last front₁ mark₁ back₁ hmark₁ hdetail

theorem LastMarker.specified_eq (h : LastMarker detail front back) :
    specified parseDuration detail = denoted parseDuration back := by
  obtain ⟨mark, hmark, hsplit⟩ := h.split
  have hlength : marker.length = mark.length := by rw [← hmark, List.length_map]
  rw [specified, h.lastAt_toLower.lastIndexOf_eq marker_ne_nil]
  simp only [List.length_map, hlength]
  rw [hsplit, ← List.append_assoc, List.drop_left' (List.length_append)]

theorem exists_lastMarker {i : Nat}
    (h : lastIndexOf marker (detail.toList.map Char.toLower) = some i) :
    ∃ front back, LastMarker detail front back := by
  obtain ⟨lfront, lback, hlast, -⟩ := lastAt_of_lastIndexOf marker_ne_nil h
  obtain ⟨front, rest, hdetail, rfl, hrest⟩ := List.map_eq_append_iff.mp hlast.split
  obtain ⟨mark, back, rfl, hmark, -⟩ := List.map_eq_append_iff.mp hrest
  refine ⟨front, back, ⟨mark, hmark, hdetail⟩, ?_⟩
  intro front' mark' back' hmark' hdetail'
  have hle := hlast.last (front'.map Char.toLower) (back'.map Char.toLower) (by
    rw [hdetail', List.map_append, List.map_append, hmark'])
  simpa using hle

/-- Without a marker nothing is reported. -/
theorem not_reported (h : lastIndexOf marker (detail.toList.map Char.toLower) = none) :
    retryAfterFromStatusDetail m parseDuration detail = some none := by
  have hnone : lastIndexOf (encodeChars marker) (encodeChars (detail.toList.map m.lower)) = none := by
    cases hi : lastIndexOf (encodeChars marker) (encodeChars (detail.toList.map m.lower)) with
    | none => rfl
    | some i =>
      obtain ⟨front, back, hlast, -⟩ := lastAt_of_lastIndexOf encodeChars_marker_ne_nil hi
      obtain ⟨lfront, lback, htext, -, -⟩ := exists_split_of_encodeChars marker_ascii hlast.split
      obtain ⟨front₁, rest, hdetail, -, hrest⟩ := List.map_eq_append_iff.mp htext
      obtain ⟨mark₁, back₁, rfl, hmark₁, -⟩ := List.map_eq_append_iff.mp hrest
      have hlower := (map_lower_eq_iff m (fun _ hc => hc)).mp hmark₁
      refine absurd ?_ (lastIndexOf_eq_none marker_ne_nil h (front₁.map Char.toLower)
        (back₁.map Char.toLower))
      rw [hdetail, List.map_append, List.map_append, hlower]
  simp only [retryAfterFromStatusDetail, utf8_ofList, hnone]

theorem LastMarker.retryAfter_eq (h : LastMarker detail front back) (m : CaseMap)
    (parseDuration : Bytes → Option Duration) :
    let start := (encodeChars (front.map m.lower)).length + (encodeChars marker).length
    retryAfterFromStatusDetail m parseDuration detail =
      if (utf8 detail).length < start then none
      else some (delayIn parseDuration ((utf8 detail).drop start)) := by
  have hindex := (h.lastAt m).lastIndexOf_eq encodeChars_marker_ne_nil
  simp only [retryAfterFromStatusDetail, utf8_ofList, hindex]

/-- A marker has as many bytes in either case. -/
theorem length_encodeChars_mark {mark : List Char} (h : mark.map Char.toLower = marker) :
    (encodeChars mark).length = (encodeChars marker).length := by
  have hascii : ∀ c ∈ mark, c.toNat < 128 := by
    intro c hc
    have hlower : c.toLower ∈ marker := h ▸ List.mem_map_of_mem hc
    by_contra hge
    rw [toLower_of_not_ascii (by omega)] at hlower
    exact hge (marker_ascii c hlower)
  rw [encodeChars_ascii hascii, encodeChars_ascii marker_ascii, latin1, latin1, List.length_map,
    List.length_map, ← h, List.length_map]

theorem LastMarker.utf8_eq (h : LastMarker detail front back) :
    ∃ mark : Bytes, mark.length = (encodeChars marker).length ∧
      utf8 detail = encodeChars front ++ mark ++ encodeChars back := by
  obtain ⟨mark, hmark, hsplit⟩ := h.split
  refine ⟨encodeChars mark, length_encodeChars_mark hmark, ?_⟩
  rw [← String.ofList_toList (s := detail), utf8_ofList, hsplit, encodeChars_append,
    encodeChars_append, List.append_assoc]

/-- The text has as many bytes in lower case, or one less: the marker ends in a blank. -/
def CaseMap.KeepsOffset (m : CaseMap) (front : List Char) : Prop :=
  (encodeChars (front.map m.lower)).length = (encodeChars front).length ∨
    (encodeChars (front.map m.lower)).length + 1 = (encodeChars front).length

theorem eq_blank_of_toLower {c : Char} (h : c.toLower = ' ') : c = ' ' := by
  by_cases hc : c.toNat < 128
  · have hall : ∀ n : Fin 128, (Char.ofNat n).toLower = ' ' → Char.ofNat n = ' ' := by decide
    have hn := hall ⟨c.toNat, hc⟩
    rw [Char.ofNat_toNat] at hn
    exact hn h
  · rwa [toLower_of_not_ascii (by omega)] at h

theorem denoted_append {gap : List Char} (h : ∀ c ∈ gap, isSpace c = true) (back : List Char) :
    denoted parseDuration (gap ++ back) = denoted parseDuration back := by
  rw [denoted, denoted, List.dropWhile_append_of_pos h]

/-- The text at the offset of the lower-cased marker, where that is behind the marker, or at its
blank. -/
theorem LastMarker.split_at_offset (h : LastMarker detail front back)
    (hkeeps : m.KeepsOffset front) :
    ∃ pre gap, detail.toList = pre ++ (gap ++ back) ∧ (∀ c ∈ gap, isSpace c = true) ∧
      (encodeChars pre).length =
        (encodeChars (front.map m.lower)).length + (encodeChars marker).length := by
  obtain ⟨mark, hmark, hsplit⟩ := h.split
  have hlength := length_encodeChars_mark hmark
  rcases hkeeps with hsame | hless
  · refine ⟨front ++ mark, [], by rw [hsplit, List.append_assoc, List.nil_append], by simp, ?_⟩
    rw [encodeChars_append, List.length_append, hlength, hsame]
  · obtain ⟨word, last, rfl, -, hlast⟩ :=
      List.map_eq_append_iff.mp (hmark.trans (show marker = "retry after".toList ++ [' '] from rfl))
    obtain ⟨c, rest, rfl, hc, hrest⟩ := List.map_eq_cons_iff.mp hlast
    obtain rfl := List.map_eq_nil_iff.mp hrest
    obtain rfl := eq_blank_of_toLower hc
    refine ⟨front ++ word, [' '], by simp [hsplit], List.forall_mem_singleton.mpr rfl, ?_⟩
    have hblank : (encodeChars [' ']).length = 1 := rfl
    rw [encodeChars_append, List.length_append, hblank] at hlength
    rw [encodeChars_append, List.length_append]
    omega

/-- A text that keeps its length before the marker is read as it says. -/
theorem LastMarker.retryAfter_of_keeps (h : LastMarker detail front back)
    (hkeeps : m.KeepsOffset front) :
    retryAfterFromStatusDetail m parseDuration detail = some (specified parseDuration detail) := by
  obtain ⟨pre, gap, hsplit, hgap, hpre⟩ := h.split_at_offset hkeeps
  have hbytes : utf8 detail = encodeChars pre ++ encodeChars (gap ++ back) := by
    rw [← String.ofList_toList (s := detail), utf8_ofList, hsplit, encodeChars_append]
  rw [h.retryAfter_eq, h.specified_eq, ← hpre, hbytes, List.drop_left, delayIn_encodeChars,
    denoted_append hgap, List.length_append, if_neg (by omega)]

theorem retryAfter_of_keeps (h : ∀ front back, LastMarker detail front back → m.KeepsOffset front) :
    retryAfterFromStatusDetail m parseDuration detail = some (specified parseDuration detail) := by
  cases hi : lastIndexOf marker (detail.toList.map Char.toLower) with
  | none => rw [not_reported hi, specified, hi]
  | some i =>
    obtain ⟨front, back, hlast⟩ := exists_lastMarker hi
    exact hlast.retryAfter_of_keeps (h front back hlast)

/-- The slice panics exactly where the text before the marker grows by more than what follows. -/
theorem LastMarker.panics_iff (h : LastMarker detail front back) :
    retryAfterFromStatusDetail m parseDuration detail = none ↔
      (encodeChars front).length + (encodeChars back).length <
        (encodeChars (front.map m.lower)).length := by
  obtain ⟨mark, hmark, hbytes⟩ := h.utf8_eq
  have hlength : (utf8 detail).length =
      (encodeChars front).length + (encodeChars marker).length + (encodeChars back).length := by
    rw [hbytes, List.length_append, List.length_append, hmark]
  rw [h.retryAfter_eq]
  split_ifs with hlong
  · exact iff_of_true rfl (by omega)
  · exact iff_of_false (by simp) (by omega)

/-! A text of another length is misread where nothing follows the marker. -/

theorem exists_rune_of_mem {text : Bytes} (h : UInt8.ofNat 'r'.toNat ∈ text) :
    ∃ r ∈ runes text, isSpaceRune r = false ∧ UInt8.ofNat 'r'.toNat ∈ r.bytes := by
  rw [← runeBytes_runes text, runeBytes, List.mem_flatMap] at h
  obtain ⟨r, hr, hmem⟩ := h
  refine ⟨r, hr, ?_, hmem⟩
  cases hchar : r.char with
  | none => simp [isSpaceRune, hchar]
  | some c =>
    rw [bytes_of_mem_runes hr hchar] at hmem
    obtain rfl := eq_of_utf8EncodeChar_mem (by decide) hmem
    rw [isSpaceRune, hchar]
    rfl

theorem mem_dropWhile {α : Type} {p : α → Bool} {a : α} {l : List α} (ha : p a = false)
    (h : a ∈ l) : a ∈ l.dropWhile p := by
  rw [← List.takeWhile_append_dropWhile (p := p) (l := l), List.mem_append] at h
  refine h.resolve_left fun htake => ?_
  rw [List.mem_takeWhile_imp htake] at ha
  cases ha

theorem delayIn_ne_none {text : Bytes} (h : UInt8.ofNat 'r'.toNat ∈ text) :
    delayIn (fun _ => some second) text ≠ none := by
  obtain ⟨r, hr, hspace, hmem⟩ := exists_rune_of_mem h
  have htrim : UInt8.ofNat 'r'.toNat ∈ trimSpaceBytes text := by
    refine List.mem_flatMap.mpr ⟨r, ?_, hmem⟩
    rw [List.rdropWhile, List.mem_reverse]
    exact mem_dropWhile hspace (List.mem_reverse.mpr (mem_dropWhile hspace hr))
  obtain ⟨r', hr', hspace', -⟩ := exists_rune_of_mem htrim
  have hword := mem_dropWhile hspace' hr'
  have hhead := head?_filter_splitOnP (p := isSpaceRune) (runes (trimSpaceBytes text))
  have hfirst := List.head?_dropWhile_not isSpaceRune (runes (trimSpaceBytes text))
  cases hdrop : (runes (trimSpaceBytes text)).dropWhile isSpaceRune with
  | nil => simp [hdrop] at hword
  | cons r₁ rest =>
    rw [hdrop] at hhead hfirst
    have hr₁ : isSpaceRune r₁ = false := by simpa using hfirst
    have hfields : (fields (trimSpaceBytes text)).head? ≠ none := by
      rw [fields, List.head?_map, hhead]
      simp [hr₁]
    rw [delayIn]
    cases hf : fields (trimSpaceBytes text) with
    | nil => simp [hf] at hfields
    | cons field rest =>
      have hpos : ¬ second < 0 := by decide
      simp [hpos]

theorem lastMarker_end (front : List Char) :
    LastMarker (String.ofList (front ++ marker)) front [] where
  split := ⟨marker, by decide, by simp⟩
  last front' mark back' hmark hsplit := by
    have hlength := congrArg List.length hsplit
    rw [← hmark] at hlength
    simp only [String.toList_ofList, List.length_append, List.length_map] at hlength
    omega

theorem misread_end (h : ¬ m.KeepsOffset front) :
    retryAfterFromStatusDetail m (fun _ => some second) (String.ofList (front ++ marker)) ≠
      some none := by
  have hlast := lastMarker_end front
  by_cases hgrows : (encodeChars front).length < (encodeChars (front.map m.lower)).length
  · rw [hlast.panics_iff.mpr (by simpa [encodeChars] using hgrows)]
    simp
  · rw [CaseMap.KeepsOffset] at h
    have hmarker : encodeChars marker =
        encodeChars "retry afte".toList ++ [UInt8.ofNat 'r'.toNat, 32] := by decide
    have hten : (encodeChars "retry afte".toList).length = 10 := by decide
    rw [hlast.retryAfter_eq, utf8_ofList, encodeChars_append, hmarker]
    simp only [List.length_append, hten, List.length_cons, List.length_nil]
    rw [if_neg (by omega), ne_eq, Option.some.injEq]
    apply delayIn_ne_none
    rw [← List.append_assoc, List.drop_append_of_le_length (by rw [List.length_append, hten]; omega)]
    simp

/-- Without a marker nothing is reported. A text before the last marker lets every text that can
follow be read as it says, and no slice panic, exactly if it keeps its length in lower case, up to
the blank of the marker. -/
theorem retryAfterFromStatusDetail_correct_iff (m : CaseMap) :
    (∀ parseDuration detail, (∀ front back, ¬ LastMarker detail front back) →
      retryAfterFromStatusDetail m parseDuration detail = some none) ∧
    ∀ front,
      (m.KeepsOffset front ↔ ∀ parseDuration detail back, LastMarker detail front back →
        retryAfterFromStatusDetail m parseDuration detail = some (denoted parseDuration back)) ∧
      ∀ parseDuration detail back, LastMarker detail front back →
        (retryAfterFromStatusDetail m parseDuration detail = none ↔
          (encodeChars front).length + (encodeChars back).length <
            (encodeChars (front.map m.lower)).length) := by
  refine ⟨fun parseDuration detail hnone => ?_, fun front => ⟨⟨?_, ?_⟩, ?_⟩⟩
  · cases hi : lastIndexOf marker (detail.toList.map Char.toLower) with
    | none => exact not_reported hi
    | some i =>
      obtain ⟨front, back, h⟩ := exists_lastMarker hi
      exact absurd h (hnone front back)
  · intro hkeeps parseDuration detail back h
    rw [h.retryAfter_of_keeps hkeeps, h.specified_eq]
  · intro hall
    by_contra hkeeps
    exact misread_end hkeeps (hall _ _ _ (lastMarker_end front))
  · intro parseDuration detail back h
    exact h.panics_iff

/-- Three of the characters that `unicode.ToLower` maps to one of another width. -/
def widthMap : CaseMap where
  lower c :=
    if c = '\u023a' then '\u2c65' else if c = '\u212a' then 'k' else if c = '\u0130' then 'i'
    else c.toLower
  ascii := by
    intro c hc
    have hne : ∀ d : Char, 128 ≤ d.toNat → c ≠ d := by
      rintro d hd rfl
      omega
    rw [if_neg (hne _ (by decide)), if_neg (hne _ (by decide)), if_neg (hne _ (by decide))]
  other := by
    intro c hc hlower
    split_ifs at hlower ⊢ with h₁ h₂ h₃
    · exact absurd hlower (by decide)
    · exact .inr rfl
    · exact .inl rfl
    · rw [toLower_of_not_ascii hc] at hlower
      omega

/-- A letter that grows in lower case, three times in front of a delay of two bytes, and one that
shrinks. -/
theorem widths_move_the_offset :
    let parseDuration := fun text => if text = ascii "1s" then some second else none
    retryAfterFromStatusDetail widthMap parseDuration
        "\u023a\u023a\u023a retry after 1s" = none ∧
      specified parseDuration "\u212a retry after 1s" = some second ∧
      retryAfterFromStatusDetail widthMap parseDuration "\u212a retry after 1s" = some none := by
  decide +kernel

end StatusDetail

end Meshd.Dwn

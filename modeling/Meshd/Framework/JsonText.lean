import Meshd.Framework.Bytes
import Meshd.Framework.Json

namespace Meshd.Framework

namespace JsonText

/-! JSON texts as `encoding/json` writes them, and a reader for the values `Json` has. -/

/-! ### Strings -/

/-- `\u` and four hexadecimal digits. -/
def unicodeEscape (n : Nat) : List Char :=
  ['\\', 'u', hexDigit (n / 4096 % 16), hexDigit (n / 256 % 16), hexDigit (n / 16 % 16),
    hexDigit (n % 16)]

/-- A character inside a string. What means something in HTML is escaped too. -/
def escape (ch : Char) : List Char :=
  if ch = '"' ∨ ch = '\\' then ['\\', ch]
  else if ch = '\x08' then ['\\', 'b']
  else if ch = '\x0c' then ['\\', 'f']
  else if ch = '\n' then ['\\', 'n']
  else if ch = '\r' then ['\\', 'r']
  else if ch = '\t' then ['\\', 't']
  else if ch.toNat < 32 ∨ ch = '<' ∨ ch = '>' ∨ ch = '&' ∨ ch.toNat = 0x2028 ∨ ch.toNat = 0x2029 then
    unicodeEscape ch.toNat
  else [ch]

/-- What means something in HTML is left as it is. -/
def escapePlain (ch : Char) : List Char :=
  if ch = '<' ∨ ch = '>' ∨ ch = '&' then [ch] else escape ch

/-- A character of a string, or a code unit given by an escape. -/
inductive Piece where
  | char (ch : Char)
  | unit (n : Nat)

def hexValue (ch : Char) : Option Nat :=
  if '0' ≤ ch ∧ ch ≤ '9' then some (ch.toNat - 48)
  else if 'a' ≤ ch ∧ ch ≤ 'f' then some (ch.toNat - 87)
  else if 'A' ≤ ch ∧ ch ≤ 'F' then some (ch.toNat - 55)
  else none

def hexUnit (a b c d : Char) : Option Nat := do
  return (((← hexValue a) * 16 + (← hexValue b)) * 16 + (← hexValue c)) * 16 + (← hexValue d)

def simpleEscape (ch : Char) : Option Char :=
  if ch = '"' ∨ ch = '\\' ∨ ch = '/' then some ch
  else if ch = 'b' then some '\x08'
  else if ch = 'f' then some '\x0c'
  else if ch = 'n' then some '\n'
  else if ch = 'r' then some '\r'
  else if ch = 't' then some '\t'
  else none

/-- A piece in front of what has been read. -/
def consPiece (p : Piece) (read : List Piece × List Char) : List Piece × List Char :=
  (p :: read.1, read.2)

/-- The pieces up to the closing quote, and what follows it. -/
def pieces : List Char → Option (List Piece × List Char)
  | [] => none
  | '"' :: rest => some ([], rest)
  | '\\' :: 'u' :: a :: b :: c :: d :: rest =>
    (hexUnit a b c d).bind fun n => (pieces rest).map (consPiece (.unit n))
  | '\\' :: e :: rest =>
    (simpleEscape e).bind fun ch => (pieces rest).map (consPiece (.char ch))
  | ch :: rest => if ch.toNat < 32 then none else (pieces rest).map (consPiece (.char ch))

def isSurrogate (n : Nat) : Bool := 0xD800 ≤ n && n < 0xE000

/-- A code unit that is no half of a pair. -/
def unitChar (n : Nat) : Char := if isSurrogate n then Char.ofNat 0xFFFD else Char.ofNat n

/-- The characters of a string; two escapes may make up one. -/
def join : List Piece → List Char
  | [] => []
  | .char ch :: rest => ch :: join rest
  | .unit hi :: .unit lo :: rest =>
    if 0xD800 ≤ hi ∧ hi < 0xDC00 ∧ 0xDC00 ≤ lo ∧ lo < 0xE000 then
      Char.ofNat (0x10000 + (hi - 0xD800) * 1024 + (lo - 0xDC00)) :: join rest
    else unitChar hi :: join (.unit lo :: rest)
  | .unit n :: rest => unitChar n :: join rest

/-- The string after an opening quote. -/
def stringBody (text : List Char) : Option (String × List Char) :=
  (pieces text).map fun read => (String.ofList (join read.1), read.2)

/-- The piece stands for the character. -/
def Piece.Is (p : Piece) (ch : Char) : Prop := p = .char ch ∨ p = .unit ch.toNat

/-- An encoding of single characters that the reader undoes. -/
def Escapes (esc : Char → List Char) : Prop :=
  ∀ ch rest, ∃ p, Piece.Is p ch ∧ pieces (esc ch ++ rest) = (pieces rest).map (consPiece p)

theorem isSurrogate_toNat (ch : Char) : isSurrogate ch.toNat = false := by
  have hvalid : ch.toNat.isValidChar := ch.valid
  simp only [isSurrogate, Bool.and_eq_false_iff, decide_eq_false_iff_not]
  rcases hvalid with h | h
  · exact .inl (by omega)
  · exact .inr (by omega)

theorem join_cons {p : Piece} {ch : Char} (h : p.Is ch) (rest : List Piece) :
    join (p :: rest) = ch :: join rest := by
  have hunit : unitChar ch.toNat = ch := by
    rw [unitChar, isSurrogate_toNat, if_neg (by decide), Char.ofNat_toNat]
  obtain rfl | rfl := h
  · rw [join]
  · -- a character is no half of a pair, so the next piece does not matter
    cases rest with
    | nil => simp [join, hunit]
    | cons q rest =>
      cases q with
      | char ch' => simp [join, hunit]
      | unit lo =>
        have hnot := isSurrogate_toNat ch
        simp only [isSurrogate, Bool.and_eq_false_iff, decide_eq_false_iff_not] at hnot
        rw [join, if_neg (by omega), hunit]

theorem stringBody_flatMap {esc : Char → List Char} (h : Escapes esc) (chars rest : List Char) :
    stringBody (chars.flatMap esc ++ '"' :: rest) = some (String.ofList chars, rest) := by
  have hread : ∃ ps, pieces (chars.flatMap esc ++ '"' :: rest) = some (ps, rest) ∧
      join ps = chars := by
    induction chars with
    | nil => exact ⟨[], by simp [pieces], rfl⟩
    | cons ch chars ih =>
      obtain ⟨ps, hps, hjoin⟩ := ih
      obtain ⟨p, hp, hesc⟩ := h ch (chars.flatMap esc ++ '"' :: rest)
      refine ⟨p :: ps, ?_, ?_⟩
      · rw [List.flatMap_cons, List.append_assoc, hesc, hps]
        rfl
      · rw [join_cons hp, hjoin]
  obtain ⟨ps, hps, hjoin⟩ := hread
  rw [stringBody, hps, Option.map_some, hjoin]

theorem hexValue_hexDigit : ∀ n < 16, hexValue (hexDigit n) = some n := by decide

theorem pieces_unicodeEscape {n : Nat} (h : n < 65536) (rest : List Char) :
    pieces (unicodeEscape n ++ rest) = (pieces rest).map (consPiece (.unit n)) := by
  have hunit : hexUnit (hexDigit (n / 4096 % 16)) (hexDigit (n / 256 % 16)) (hexDigit (n / 16 % 16))
      (hexDigit (n % 16)) = some n := by
    simp only [hexUnit, hexValue_hexDigit _ (Nat.mod_lt _ (by decide : 0 < 16))]
    simp only [Option.bind_eq_bind, Option.bind_some, pure]
    congr 1
    omega
  rw [unicodeEscape]
  simp only [List.cons_append, List.nil_append]
  rw [pieces, hunit, Option.bind_some]

theorem pieces_simple {e ch : Char} (h : simpleEscape e = some ch) (hu : e ≠ 'u')
    (rest : List Char) :
    pieces ('\\' :: e :: rest) = (pieces rest).map (consPiece (.char ch)) := by
  rw [pieces, h, Option.bind_some]
  simp [hu]

theorem pieces_plain {ch : Char} (hquote : ch ≠ '"') (hslash : ch ≠ '\\') (hctl : ¬ ch.toNat < 32)
    (rest : List Char) :
    pieces (ch :: rest) = (pieces rest).map (consPiece (.char ch)) := by
  rw [pieces, if_neg hctl]
  · simpa using hquote
  · simp [hslash]
  · simp [hslash]

theorem escapes_escape : Escapes escape := by
  intro ch rest
  rw [escape]
  split_ifs with hq hb hf hn hr ht hu
  · obtain rfl | rfl := hq
    · exact ⟨_, .inl rfl, pieces_simple (by decide) (by decide) rest⟩
    · exact ⟨_, .inl rfl, pieces_simple (by decide) (by decide) rest⟩
  · exact ⟨_, .inl rfl, pieces_simple (by rw [hb]; decide) (by decide) rest⟩
  · exact ⟨_, .inl rfl, pieces_simple (by rw [hf]; decide) (by decide) rest⟩
  · exact ⟨_, .inl rfl, pieces_simple (by rw [hn]; decide) (by decide) rest⟩
  · exact ⟨_, .inl rfl, pieces_simple (by rw [hr]; decide) (by decide) rest⟩
  · exact ⟨_, .inl rfl, pieces_simple (by rw [ht]; decide) (by decide) rest⟩
  · refine ⟨_, .inr rfl, pieces_unicodeEscape ?_ rest⟩
    obtain h | rfl | rfl | rfl | h | h := hu
    · omega
    · decide
    · decide
    · decide
    · omega
    · omega
  · simp only [not_or] at hq hu
    exact ⟨_, .inl rfl, pieces_plain hq.1 hq.2 hu.1 rest⟩

theorem escapes_escapePlain : Escapes escapePlain := by
  intro ch rest
  rw [escapePlain]
  split_ifs with hhtml
  · obtain rfl | rfl | rfl := hhtml
    · exact ⟨_, .inl rfl, pieces_plain (by decide) (by decide) (by decide) rest⟩
    · exact ⟨_, .inl rfl, pieces_plain (by decide) (by decide) (by decide) rest⟩
    · exact ⟨_, .inl rfl, pieces_plain (by decide) (by decide) (by decide) rest⟩
  · exact escapes_escape ch rest

/-! ### Numbers -/

def printInt : Int → List Char
  | .ofNat n => Nat.toDigits 10 n
  | .negSucc n => '-' :: Nat.toDigits 10 (n + 1)

/-- The digits in front; only zero itself begins with a zero. -/
def natural (text : List Char) : Option (Nat × List Char) :=
  let digits := text.takeWhile Char.isDigit
  if digits = [] ∨ digits.head? = some '0' ∧ digits ≠ ['0'] then none
  else some (Nat.ofDigitChars 10 digits 0, text.dropWhile Char.isDigit)

/-- What may follow a value inside another one. -/
def Ends (rest : List Char) : Prop := ∀ ch ∈ rest.head?, ch.isDigit = false

theorem head?_toDigits (n : Nat) (h : 0 < n) : (Nat.toDigits 10 n).head? ≠ some '0' := by
  induction n using Nat.strong_induction_on with
  | _ n ih =>
    by_cases hlt : n < 10
    · rw [Nat.toDigits_of_lt_base hlt]
      interval_cases n <;> decide
    · rw [Nat.toDigits_of_base_le (by decide) (not_lt.mp hlt), List.head?_append]
      have hfront := ih (n / 10) (Nat.div_lt_self h (by decide)) (by omega)
      cases hd : (Nat.toDigits 10 (n / 10)).head? with
      | none => exact absurd (List.head?_eq_none_iff.mp hd) Nat.toDigits_ne_nil
      | some ch => simpa [hd] using hfront

theorem natural_toDigits (n : Nat) {rest : List Char} (h : Ends rest) :
    natural (Nat.toDigits 10 n ++ rest) = some (n, rest) := by
  have hall : ∀ ch ∈ Nat.toDigits 10 n, ch.isDigit = true :=
    fun ch hch => Nat.isDigit_of_mem_toDigits (by decide) (by decide) hch
  have htake : rest.takeWhile Char.isDigit = [] ∧ rest.dropWhile Char.isDigit = rest := by
    cases rest with
    | nil => exact ⟨rfl, rfl⟩
    | cons ch tail =>
      have hch : ch.isDigit = false := h ch rfl
      simp [List.takeWhile, List.dropWhile, hch]
  have hzero : (Nat.toDigits 10 n).head? = some '0' → Nat.toDigits 10 n = ['0'] := by
    intro hhead
    rcases Nat.eq_zero_or_pos n with rfl | hpos
    · rfl
    · exact absurd hhead (head?_toDigits n hpos)
  rw [natural, List.takeWhile_append_of_pos hall, List.dropWhile_append_of_pos hall, htake.1,
    htake.2, List.append_nil]
  simp only [Nat.toDigits_ne_nil, false_or]
  rw [if_neg (fun hbad => hbad.2 (hzero hbad.1)), Nat.ofDigitChars_ten_toDigits]

/-! ### Values -/

def printString (s : String) : List Char := '"' :: (s.toList.flatMap escape ++ ['"'])

mutual

def print : Json → List Char
  | .null => ['n', 'u', 'l', 'l']
  | .bool true => ['t', 'r', 'u', 'e']
  | .bool false => ['f', 'a', 'l', 's', 'e']
  | .num n => printInt n
  | .str s => printString s
  | .arr [] => ['[', ']']
  | .arr (v :: vs) => '[' :: (print v ++ printItems vs)
  | .obj [] => ['{', '}']
  | .obj (p :: ps) => '{' :: (printMember p ++ printMembers ps)

/-- The items after the first, and the closing bracket. -/
def printItems : List Json → List Char
  | [] => [']']
  | v :: vs => ',' :: (print v ++ printItems vs)

def printMember : String × Json → List Char
  | (k, v) => printString k ++ ':' :: print v

def printMembers : List (String × Json) → List Char
  | [] => ['}']
  | p :: ps => ',' :: (printMember p ++ printMembers ps)

end

def isSpace (ch : Char) : Bool := ch = ' ' || ch = '\t' || ch = '\n' || ch = '\r'

def skip (text : List Char) : List Char := text.dropWhile isSpace

mutual

/-- A value at the front of a text, for texts shorter than the fuel. -/
def value : Nat → List Char → Option (Json × List Char)
  | 0, _ => none
  | fuel + 1, text =>
    match skip text with
    | 'n' :: 'u' :: 'l' :: 'l' :: rest => some (.null, rest)
    | 't' :: 'r' :: 'u' :: 'e' :: rest => some (.bool true, rest)
    | 'f' :: 'a' :: 'l' :: 's' :: 'e' :: rest => some (.bool false, rest)
    | '"' :: rest => (stringBody rest).map fun read => (.str read.1, read.2)
    | '[' :: rest =>
      match skip rest with
      | ']' :: rest => some (.arr [], rest)
      | rest => (items fuel rest).map fun read => (.arr read.1, read.2)
    | '{' :: rest =>
      match skip rest with
      | '}' :: rest => some (.obj [], rest)
      | rest => (members fuel rest).map fun read => (.obj read.1, read.2)
    | '-' :: rest => (natural rest).map fun read => (.num (-read.1), read.2)
    | rest => (natural rest).map fun read => (.num read.1, read.2)

def items : Nat → List Char → Option (List Json × List Char)
  | 0, _ => none
  | fuel + 1, text =>
    (value fuel text).bind fun read =>
      match skip read.2 with
      | ',' :: rest => (items fuel rest).map fun more => (read.1 :: more.1, more.2)
      | ']' :: rest => some ([read.1], rest)
      | _ => none

def members : Nat → List Char → Option (List (String × Json) × List Char)
  | 0, _ => none
  | fuel + 1, text =>
    (member fuel text).bind fun read =>
      match skip read.2 with
      | ',' :: rest => (members fuel rest).map fun more => (read.1 :: more.1, more.2)
      | '}' :: rest => some ([read.1], rest)
      | _ => none

def member : Nat → List Char → Option ((String × Json) × List Char)
  | 0, _ => none
  | fuel + 1, text =>
    match skip text with
    | '"' :: rest =>
      (stringBody rest).bind fun key =>
        match skip key.2 with
        | ':' :: rest => (value fuel rest).map fun read => ((key.1, read.1), read.2)
        | _ => none
    | _ => none

end

/-- A text that is one value. -/
def parse (text : String) : Option Json :=
  (value (text.toList.length + 1) text.toList).bind fun read =>
    if skip read.2 = [] then some read.1 else none

theorem skip_cons {ch : Char} (h : isSpace ch = false) (rest : List Char) :
    skip (ch :: rest) = ch :: rest := by
  rw [skip, List.dropWhile_cons_of_neg (by simp [h])]

theorem isSpace_of_isDigit {ch : Char} (h : ch.isDigit = true) : isSpace ch = false := by
  simp only [isSpace, Bool.or_eq_false_iff, decide_eq_false_iff_not]
  refine ⟨⟨⟨?_, ?_⟩, ?_⟩, ?_⟩ <;> rintro rfl <;> exact absurd h (by decide)

/-- How a value begins. -/
def Begins (text : List Char) : Prop :=
  ∃ ch rest, text = ch :: rest ∧ isSpace ch = false ∧ ch ≠ ']' ∧ ch ≠ '}'

theorem begins_digits (n : Nat) : Begins (Nat.toDigits 10 n) := by
  cases hd : Nat.toDigits 10 n with
  | nil => exact absurd hd Nat.toDigits_ne_nil
  | cons ch rest =>
    have hdigit : ch.isDigit = true :=
      Nat.isDigit_of_mem_toDigits (by decide) (by decide) (hd ▸ List.mem_cons_self)
    refine ⟨ch, rest, rfl, isSpace_of_isDigit hdigit, ?_, ?_⟩
    · rintro rfl
      exact absurd hdigit (by decide)
    · rintro rfl
      exact absurd hdigit (by decide)

theorem begins_print (v : Json) : Begins (print v) := by
  cases v with
  | null => exact ⟨_, _, rfl, by decide, by decide, by decide⟩
  | bool b => cases b <;> exact ⟨_, _, rfl, by decide, by decide, by decide⟩
  | num n =>
    cases n with
    | ofNat n => exact begins_digits n
    | negSucc n => exact ⟨_, _, rfl, by decide, by decide, by decide⟩
  | str s => exact ⟨_, _, rfl, by decide, by decide, by decide⟩
  | arr vs => cases vs <;> exact ⟨_, _, rfl, by decide, by decide, by decide⟩
  | obj ps => cases ps <;> exact ⟨_, _, rfl, by decide, by decide, by decide⟩

theorem begins_printMember (p : String × Json) : Begins (printMember p) := by
  obtain ⟨k, v⟩ := p
  exact ⟨'"', _, rfl, by decide, by decide, by decide⟩

theorem ends_cons {ch : Char} (h : ch.isDigit = false) (rest : List Char) : Ends (ch :: rest) := by
  intro ch' hch
  rwa [← Option.some.inj hch]

theorem ends_printItems (vs : List Json) (rest : List Char) : Ends (printItems vs ++ rest) := by
  cases vs <;> exact ends_cons (by decide) _

theorem ends_printMembers (ps : List (String × Json)) (rest : List Char) :
    Ends (printMembers ps ++ rest) := by
  cases ps <;> exact ends_cons (by decide) _

theorem stringBody_printString (s : String) (rest : List Char) :
    ∃ body, printString s ++ rest = '"' :: body ∧ stringBody body = some (s, rest) := by
  refine ⟨s.toList.flatMap escape ++ '"' :: rest, by simp [printString], ?_⟩
  rw [stringBody_flatMap escapes_escape, String.ofList_toList]

/-- A number that begins with a digit. -/
theorem value_toDigits (n fuel : Nat) {rest : List Char} (h : Ends rest) :
    value (fuel + 1) (Nat.toDigits 10 n ++ rest) = some (.num n, rest) := by
  have hnat := natural_toDigits n h
  cases hd : Nat.toDigits 10 n with
  | nil => exact absurd hd Nat.toDigits_ne_nil
  | cons ch ds =>
    have hdigit : ch.isDigit = true :=
      Nat.isDigit_of_mem_toDigits (by decide) (by decide) (hd ▸ List.mem_cons_self)
    rw [hd, List.cons_append] at hnat
    rw [value, List.cons_append, skip_cons (isSpace_of_isDigit hdigit)]
    split
    case h_8 =>
      rw [hnat]
      rfl
    all_goals
      rename_i heq
      obtain ⟨rfl, -⟩ := List.cons.inj heq
      exact absurd hdigit (by decide)

theorem value_arr {fuel : Nat} {text rest : List Char} {vs : List Json} (hb : Begins text)
    (h : items fuel text = some (vs, rest)) :
    value (fuel + 1) ('[' :: text) = some (.arr vs, rest) := by
  obtain ⟨ch, tail, rfl, hspace, hclose, -⟩ := hb
  rw [value, skip_cons (by decide)]
  simp only [skip_cons hspace]
  split
  · rename_i heq
    exact absurd (List.cons.inj heq).1 hclose
  · rw [h]
    rfl

theorem value_obj {fuel : Nat} {text rest : List Char} {ps : List (String × Json)}
    (hb : Begins text) (h : members fuel text = some (ps, rest)) :
    value (fuel + 1) ('{' :: text) = some (.obj ps, rest) := by
  obtain ⟨ch, tail, rfl, hspace, -, hclose⟩ := hb
  rw [value, skip_cons (by decide)]
  simp only [skip_cons hspace]
  split
  · rename_i heq
    exact absurd (List.cons.inj heq).1 hclose
  · rw [h]
    rfl

theorem Begins.append {text : List Char} (h : Begins text) (rest : List Char) :
    Begins (text ++ rest) := by
  obtain ⟨ch, tail, rfl, hch⟩ := h
  exact ⟨ch, tail ++ rest, rfl, hch⟩

theorem Begins.length_pos {text : List Char} (h : Begins text) : 0 < text.length := by
  obtain ⟨ch, tail, rfl, -⟩ := h
  exact Nat.succ_pos _

theorem length_printItems_pos (vs : List Json) : 0 < (printItems vs).length := by
  cases vs <;> exact Nat.succ_pos _

theorem length_printMembers_pos (ps : List (String × Json)) : 0 < (printMembers ps).length := by
  cases ps <;> exact Nat.succ_pos _

mutual

/-- A printed value is read back, whatever follows it inside a longer text. -/
theorem value_print : ∀ (v : Json) {fuel : Nat} {rest : List Char}, (print v).length ≤ fuel →
    Ends rest → value fuel (print v ++ rest) = some (v, rest)
  | .null, fuel + 1, rest, _, _ => by simp [print, value, skip_cons, isSpace]
  | .bool true, fuel + 1, rest, _, _ => by simp [print, value, skip_cons, isSpace]
  | .bool false, fuel + 1, rest, _, _ => by simp [print, value, skip_cons, isSpace]
  | .num (.ofNat n), fuel + 1, rest, _, hr => value_toDigits n fuel hr
  | .num (.negSucc n), fuel + 1, rest, _, hr => by
    rw [print, printInt, List.cons_append, value, skip_cons (by decide)]
    simp only [natural_toDigits (n + 1) hr, Option.map_some]
    rfl
  | .str s, fuel + 1, rest, _, _ => by
    obtain ⟨body, htext, hbody⟩ := stringBody_printString s rest
    rw [print, htext, value, skip_cons (by decide)]
    simp only [hbody, Option.map_some]
  | .arr [], fuel + 1, rest, _, _ => by simp [print, value, skip_cons, isSpace]
  | .arr (v :: vs), fuel + 1, rest, hf, _ => by
    rw [print, List.length_cons] at hf
    rw [print, List.cons_append]
    exact value_arr (((begins_print v).append _).append _)
      (items_print v vs (Nat.le_of_succ_le_succ hf))
  | .obj [], fuel + 1, rest, _, _ => by simp [print, value, skip_cons, isSpace]
  | .obj (p :: ps), fuel + 1, rest, hf, _ => by
    rw [print, List.length_cons] at hf
    rw [print, List.cons_append]
    exact value_obj (((begins_printMember p).append _).append _)
      (members_print p ps (Nat.le_of_succ_le_succ hf))
  | v, 0, rest, hf, _ => absurd hf (not_le.mpr (begins_print v).length_pos)

theorem items_print : ∀ (v : Json) (vs : List Json) {fuel : Nat} {rest : List Char},
    (print v ++ printItems vs).length ≤ fuel →
    items fuel (print v ++ printItems vs ++ rest) = some (v :: vs, rest)
  | v, vs, 0, rest, hf => absurd hf (not_le.mpr ((begins_print v).append _).length_pos)
  | v, vs, fuel + 1, rest, hf => by
    have hpos := length_printItems_pos vs
    rw [List.length_append] at hf
    rw [items, List.append_assoc, value_print v (by omega) (ends_printItems vs rest),
      Option.bind_some]
    cases vs with
    | nil =>
      simp only [printItems, List.cons_append, List.nil_append,
        skip_cons (by decide : isSpace ']' = false)]
    | cons v' vs' =>
      rw [printItems, List.length_cons] at hf
      simp only [printItems, List.cons_append, skip_cons (by decide : isSpace ',' = false)]
      rw [items_print v' vs' (by omega)]
      rfl

theorem member_print : ∀ (p : String × Json) {fuel : Nat} {rest : List Char},
    (printMember p).length ≤ fuel → Ends rest → member fuel (printMember p ++ rest) = some (p, rest)
  | p, 0, rest, hf, _ => absurd hf (not_le.mpr (begins_printMember p).length_pos)
  | (k, v), fuel + 1, rest, hf, hr => by
    rw [printMember, List.length_append, List.length_cons] at hf
    obtain ⟨body, htext, hbody⟩ := stringBody_printString k (':' :: (print v ++ rest))
    rw [printMember, List.append_assoc, List.cons_append, htext, member, skip_cons (by decide)]
    simp only [hbody, Option.bind_some, skip_cons (by decide : isSpace ':' = false)]
    rw [value_print v (by omega) hr]
    rfl

theorem members_print : ∀ (p : String × Json) (ps : List (String × Json)) {fuel : Nat}
    {rest : List Char}, (printMember p ++ printMembers ps).length ≤ fuel →
    members fuel (printMember p ++ printMembers ps ++ rest) = some (p :: ps, rest)
  | p, ps, 0, rest, hf => absurd hf (not_le.mpr ((begins_printMember p).append _).length_pos)
  | p, ps, fuel + 1, rest, hf => by
    have hpos := length_printMembers_pos ps
    rw [List.length_append] at hf
    rw [members, List.append_assoc, member_print p (by omega) (ends_printMembers ps rest),
      Option.bind_some]
    cases ps with
    | nil =>
      simp only [printMembers, List.cons_append, List.nil_append,
        skip_cons (by decide : isSpace '}' = false)]
    | cons p' ps' =>
      rw [printMembers, List.length_cons] at hf
      simp only [printMembers, List.cons_append, skip_cons (by decide : isSpace ',' = false)]
      rw [members_print p' ps' (by omega)]
      rfl

end

theorem parse_print (v : Json) : parse (String.ofList (print v)) = some v := by
  have hread : value ((print v).length + 1) (print v ++ []) = some (v, []) :=
    value_print v (Nat.le_succ _) (by intro ch hch; cases hch)
  rw [List.append_nil] at hread
  rw [parse, String.toList_ofList, hread]
  rfl

/-! ### Bytes -/

def ofUtf8 (bytes : Bytes) : Option String :=
  let array := ByteArray.mk bytes.toArray
  if h : array.IsValidUTF8 then some (String.ofByteArray array h) else none

def utf8 (text : String) : Bytes := text.toByteArray.data.toList

theorem ofUtf8_utf8 (text : String) : ofUtf8 (utf8 text) = some text := by
  have harray : ByteArray.mk (utf8 text).toArray = text.toByteArray := by
    rw [utf8, Array.toArray_toList]
  rw [ofUtf8]
  simp only [harray, dif_pos text.isValidUTF8]

def marshal (v : Json) : Bytes := utf8 (String.ofList (print v))

def unmarshal (bytes : Bytes) : Option Json := (ofUtf8 bytes).bind parse

theorem unmarshal_marshal (v : Json) : unmarshal (marshal v) = some v := by
  rw [unmarshal, marshal, ofUtf8_utf8, Option.bind_some, parse_print]

end JsonText

/-- A member as `json.Unmarshal` reads it into a string: absent and `null` leave it empty. -/
def Json.stringMember (name : String) (fields : List (String × Json)) : Option String :=
  match Json.field name fields with
  | none => some ""
  | some .null => some ""
  | some (.str s) => some s
  | some _ => none

/-- An encoding of values in bytes. The reader may take more texts than those of the writer. -/
structure Encoding (α : Type) where
  marshal : α → Bytes
  unmarshal : Bytes → Option α
  unmarshal_marshal : ∀ a, unmarshal (marshal a) = some a

theorem Encoding.marshal_ne_nil {α : Type} (encoding : Encoding α) (h : encoding.unmarshal [] = none)
    (a : α) : encoding.marshal a ≠ [] := by
  intro hnil
  have hread := encoding.unmarshal_marshal a
  rw [hnil, h] at hread
  cases hread

/-- The JSON texts of a type whose values are read back from their JSON. -/
def Encoding.ofJson {α : Type} (toJson : α → Json) (ofJson : Json → Option α)
    (h : ∀ a, ofJson (toJson a) = some a) : Encoding α where
  marshal a := JsonText.marshal (toJson a)
  unmarshal bytes := (JsonText.unmarshal bytes).bind ofJson
  unmarshal_marshal a := by rw [JsonText.unmarshal_marshal, Option.bind_some, h]

end Meshd.Framework

import Meshd.Framework.DnsMessage
import Meshd.Framework.Lines
import Mathlib.Data.List.AList

namespace Meshd.Framework.Dns

/-! A DNS message of TXT answers, written with its names compressed. -/

inductive PackError where
  | calcLen
  | segTooLong
  | nameTooLong
  | zeroSegLen
  | resTooLong
  | tooManyAnswers
  | nonCanonicalName
  | stringTooLong
  | nested (s : String) (err : PackError)
deriving DecidableEq

def PackError.text : PackError → String
  | calcLen => "insufficient data for calculated length type"
  | segTooLong => "segment length too long"
  | nameTooLong => "name too long"
  | zeroSegLen => "zero length segment"
  | resTooLong => "resource length too long"
  | tooManyAnswers => "too many Answers to pack (>65535)"
  | nonCanonicalName => "name is not in canonical format (it must end with a .)"
  | stringTooLong => "character string exceeds maximum length (255)"
  | nested s err => s ++ ": " ++ err.text

/-- Where the rest of a name, from one of its labels on, already stands in the message. -/
abbrev Compression := AList (fun _ : Bytes => Nat)

/-- `byte(ptr>>8|0xC0), byte(ptr)`. -/
def pointer (ptr : Nat) : Bytes := [UInt8.ofNat (ptr / 256 ||| 0xC0), UInt8.ofNat ptr]

/-- The suffix at the end of the message, if its offset fits into a pointer. -/
def Compression.store (compression : Compression) (suffix : Bytes) (off : Nat) : Compression :=
  if off ≤ 0x3FFF then compression.insert suffix off else compression

/-- The loop of `Name.pack`: `segment` is what has been read of the current label. -/
def packLabels (compression : Compression) (msg segment : Bytes) :
    Bytes → Except PackError (Bytes × Compression)
  | [] => .ok (msg ++ [0], compression)
  | c :: rest =>
    if c = dot then
      if segment.length ≥ 64 then .error .segTooLong
      else if segment.length = 0 then .error .zeroSegLen
      else packLabels compression (msg ++ UInt8.ofNat segment.length :: segment) [] rest
    else if segment = [] then
      match compression.lookup (c :: rest) with
      | some ptr => .ok (msg ++ pointer ptr, compression)
      | none => packLabels (compression.store (c :: rest) msg.length) msg [c] rest
    else packLabels compression msg (segment ++ [c]) rest

def packName (name msg : Bytes) (compression : Compression) :
    Except PackError (Bytes × Compression) :=
  if name.length > 254 then .error .nameTooLong
  else if name.getLast? ≠ some dot then .error .nonCanonicalName
  else if name = [dot] then .ok (msg ++ [0], compression)
  else packLabels compression msg [] name

/-- A TXT record of the answers. -/
structure TXTRecord where
  name : Bytes
  rclass : Nat := 0
  ttl : Nat
  txt : List Bytes
deriving DecidableEq

def packText (msg field : Bytes) : Except PackError Bytes :=
  if field.length > 255 then .error .stringTooLong
  else .ok (msg ++ UInt8.ofNat field.length :: field)

/-- The header with its length still to be filled in, and the offset of that length. -/
def TXTRecord.packHeader (r : TXTRecord) (msg : Bytes) (compression : Compression) :
    Except PackError (Bytes × Nat × Compression) := do
  let (msg, compression) ← (packName r.name msg compression).mapError (.nested "Name")
  let msg := msg ++ bigEndian 2 typeTXT ++ bigEndian 2 r.rclass ++ bigEndian 4 r.ttl
  return (msg ++ bigEndian 2 0, msg.length, compression)

def fixLen (msg : Bytes) (lenOff preLen : Nat) : Except PackError Bytes :=
  let conLen := msg.length - preLen
  if conLen > 65535 then .error .resTooLong
  else .ok (msg.take lenOff ++ bigEndian 2 conLen ++ msg.drop (lenOff + 2))

def TXTRecord.pack (r : TXTRecord) (msg : Bytes) (compression : Compression) :
    Except PackError (Bytes × Compression) := do
  let (msg, lenOff, compression) ←
    (r.packHeader msg compression).mapError (.nested "ResourceHeader")
  let preLen := msg.length
  let msg ← (r.txt.foldlM packText msg).mapError (.nested "content")
  let msg ← fixLen msg lenOff preLen
  return (msg, compression)

def packAnswers : List TXTRecord → Bytes → Compression → Except PackError Bytes
  | [], msg, _ => .ok msg
  | r :: rest, msg, compression => do
    let (msg, compression) ← (r.pack msg compression).mapError (.nested "packing Answer")
    packAnswers rest msg compression

/-- The header of a message that has only answers. -/
def packHeader (answers : Nat) : Bytes :=
  bigEndian 2 0 ++ bigEndian 2 0 ++ bigEndian 2 0 ++ bigEndian 2 answers ++ bigEndian 2 0 ++
    bigEndian 2 0

/-- `Message.Pack`. -/
def pack (answers : List TXTRecord) : Except PackError Bytes :=
  if answers.length > 65535 then .error .tooManyAnswers
  else packAnswers answers (packHeader answers.length) ∅

/-! ### What stands at an offset -/

/-- The bytes stand in the message from `off` on. -/
def Holds (msg : Bytes) (off : Nat) (bytes : Bytes) : Prop := bytes <+: msg.drop off

section Holds

variable {msg msg' bytes : Bytes} {off : Nat}

theorem Holds.mono (h : Holds msg off bytes) (hmsg : msg <+: msg') : Holds msg' off bytes := by
  obtain ⟨back, rfl⟩ := hmsg
  rw [Holds, List.drop_append]
  exact h.trans (List.prefix_append _ _)

theorem holds_append (front bytes back : Bytes) :
    Holds (front ++ (bytes ++ back)) front.length bytes := by
  rw [Holds, List.drop_left]
  exact List.prefix_append bytes back

theorem holds_end (front bytes : Bytes) : Holds (front ++ bytes) front.length bytes := by
  simpa using holds_append front bytes []

theorem Holds.split {a b : Bytes} (h : Holds msg off (a ++ b)) :
    Holds msg off a ∧ Holds msg (off + a.length) b := by
  obtain ⟨back, hback⟩ := h
  refine ⟨⟨b ++ back, by rw [← hback, List.append_assoc]⟩, back, ?_⟩
  rw [← List.drop_drop, ← hback, List.append_assoc, List.drop_left]

theorem Holds.le (h : Holds msg off bytes) (hne : bytes ≠ []) : off + bytes.length ≤ msg.length := by
  have hlength := h.length_le
  have hpos := List.length_pos_iff.mpr hne
  rw [List.length_drop] at hlength
  omega

theorem Holds.slice_eq (h : Holds msg off bytes) : slice msg off (off + bytes.length) = bytes := by
  rw [slice, Nat.add_sub_cancel_left]
  exact (List.prefix_iff_eq_take.mp h).symm

theorem Holds.getElem? {b : UInt8} (h : Holds msg off (b :: bytes)) : msg[off]? = some b := by
  obtain ⟨back, hback⟩ := h
  rw [← List.head?_drop, ← hback]
  rfl

theorem Holds.unpackUint (h : Holds msg off bytes) (hne : bytes ≠ []) :
    unpackUint bytes.length msg off = .ok (ofBigEndian bytes, off + bytes.length) := by
  have hle := h.le hne
  rw [Dns.unpackUint, if_neg (by omega), h.slice_eq]

end Holds

/-! ### Names -/

/-- From `off` on the message has a name with these labels, which ends before `fin` and is read over
at most `depth` pointers. -/
inductive NameAt (msg : Bytes) : Nat → Nat → List Bytes → Nat → Prop
  | root {depth off : Nat} (h : Holds msg off [0]) : NameAt msg depth off [] (off + 1)
  | label {depth off fin : Nat} {label : Bytes} {labels : List Bytes}
      (hne : label ≠ []) (hlength : label.length < 64) (hdot : dot ∉ label)
      (h : Holds msg off (UInt8.ofNat label.length :: label))
      (hrest : NameAt msg depth (off + 1 + label.length) labels fin) :
      NameAt msg depth off (label :: labels) fin
  | pointer {depth off target fin : Nat} {labels : List Bytes} (htarget : target ≤ 0x3FFF)
      (h : Holds msg off (Dns.pointer target)) (hrest : NameAt msg depth target labels fin) :
      NameAt msg (depth + 1) off labels (off + 2)

section NameAt

variable {msg msg' : Bytes} {depth off fin ptr newOff : Nat} {labels : List Bytes} {name : Bytes}

theorem NameAt.mono (h : NameAt msg depth off labels fin) (hmsg : msg <+: msg') :
    NameAt msg' depth off labels fin := by
  induction h with
  | root h => exact .root (h.mono hmsg)
  | label hne hlength hdot h _ ih => exact .label hne hlength hdot (h.mono hmsg) ih
  | pointer htarget h _ ih => exact .pointer htarget (h.mono hmsg) ih

theorem NameAt.deeper {depth' : Nat} (h : NameAt msg depth off labels fin) (hle : depth ≤ depth') :
    NameAt msg depth' off labels fin := by
  induction h generalizing depth' with
  | root h => exact .root h
  | label hne hlength hdot h _ ih => exact .label hne hlength hdot h (ih hle)
  | pointer htarget h _ ih =>
    obtain ⟨d, rfl⟩ := Nat.exists_eq_add_of_le' (Nat.le_of_add_left_le hle)
    exact .pointer htarget h (ih (by omega))

theorem NameAt.dot_not_mem (h : NameAt msg depth off labels fin) : ∀ label ∈ labels, dot ∉ label := by
  induction h with
  | root => simp
  | label _ _ hdot _ _ ih => exact List.forall_mem_cons.mpr ⟨hdot, ih⟩
  | pointer _ _ _ ih => exact ih

theorem unpackLabels_root (h : Holds msg off [0]) :
    unpackLabels msg ptr off newOff name = .ok (name, if ptr = 0 then off + 1 else newOff) := by
  have hle : off + 1 ≤ msg.length := h.le (by simp)
  have hget := h.getElem?
  rw [List.getElem?_eq_getElem (by omega)] at hget
  rw [unpackLabels, dif_pos (by omega)]
  simp only [Option.some.inj hget]
  rw [if_pos (by rfl)]

theorem unpackLabels_label {label : Bytes} (hne : label ≠ []) (hlength : label.length < 64)
    (hdot : dot ∉ label) (h : Holds msg off (UInt8.ofNat label.length :: label)) :
    unpackLabels msg ptr off newOff name =
      unpackLabels msg ptr (off + 1 + label.length) newOff (name ++ label ++ [dot]) := by
  have hle := h.le (by simp)
  have hget := h.getElem?
  have hslice := (Holds.split (a := [UInt8.ofNat label.length]) h).2.slice_eq
  have hpos := List.length_pos_iff.mpr hne
  have hsize : (UInt8.ofNat label.length).toNat = label.length := by
    rw [UInt8.toNat_ofNat']
    omega
  rw [List.length_cons] at hle
  rw [List.getElem?_eq_getElem (by omega)] at hget
  rw [List.length_singleton] at hslice
  rw [unpackLabels, dif_pos (by omega)]
  simp only [Option.some.inj hget, hsize]
  rw [if_neg (by omega), if_pos (by omega), if_neg (by omega), hslice, if_neg hdot]

theorem or_high : ∀ n < 64, n ||| 0xC0 = n + 0xC0 := by decide

theorem unpackLabels_pointer {target : Nat} (htarget : target ≤ 0x3FFF)
    (h : Holds msg off (pointer target)) (hptr : ptr < 10) :
    unpackLabels msg ptr off newOff name =
      unpackLabels msg (ptr + 1) target (if ptr = 0 then off + 2 else newOff) name := by
  have hle := h.le (by simp [pointer])
  have hget := h.getElem?
  have hget' := (Holds.split (a := [UInt8.ofNat (target / 256 ||| 0xC0)]) h).2.getElem?
  have hsize : (UInt8.ofNat (target / 256 ||| 0xC0)).toNat = target / 256 + 0xC0 := by
    rw [or_high _ (by omega), UInt8.toNat_ofNat']
    omega
  have hsize' : (UInt8.ofNat target).toNat = target % 256 := UInt8.toNat_ofNat'
  have hlength : (pointer target).length = 2 := rfl
  rw [hlength] at hle
  rw [List.getElem?_eq_getElem (by omega)] at hget
  rw [List.length_singleton, List.getElem?_eq_getElem (by omega)] at hget'
  have hback : (target / 256 + 0xC0 - 0xC0) * 256 + target % 256 = target := by omega
  rw [unpackLabels, dif_pos (by omega)]
  simp only [Option.some.inj hget, hsize]
  rw [if_neg (by omega), if_neg (by omega), if_pos (by omega), dif_pos (by omega), if_pos hptr]
  simp only [Option.some.inj hget', hsize', hback]

/-- A name of the message is read as its labels, each with a dot after it. -/
theorem NameAt.unpackLabels (h : NameAt msg depth off labels fin) (hptr : ptr + depth ≤ 10) :
    unpackLabels msg ptr off newOff name =
      .ok (name ++ unlines dot labels, if ptr = 0 then fin else newOff) := by
  induction h generalizing ptr newOff name with
  | root h => rw [unpackLabels_root h, unlines, List.flatMap_nil, List.append_nil]
  | label hne hlength hdot h _ ih =>
    rw [unpackLabels_label hne hlength hdot h, ih hptr]
    simp [unlines]
  | pointer htarget h _ ih =>
    rw [unpackLabels_pointer htarget h (by omega), ih (by omega), if_neg (by omega)]

end NameAt

theorem count_unlines {labels : List Bytes} (h : ∀ label ∈ labels, dot ∉ label) :
    (unlines dot labels).count dot = labels.length := by
  induction labels with
  | nil => rfl
  | cons label labels ih =>
    obtain ⟨hlabel, hlabels⟩ := List.forall_mem_cons.mp h
    have hsplit : unlines dot (label :: labels) = label ++ dot :: unlines dot labels := by
      simp [unlines]
    rw [hsplit, List.count_append, List.count_cons_self, ih hlabels,
      List.count_eq_zero.mpr hlabel, Nat.zero_add, List.length_cons]

/-! ### Packed names -/

/-- What the compression table says of a suffix: it stands there, and each pointer on the way is
behind a label. -/
def Entry (msg suffix : Bytes) (off : Nat) : Prop :=
  off ≤ 0x3FFF ∧ ∃ label labels fin, unlines dot (label :: labels) = suffix ∧
    NameAt msg labels.length off (label :: labels) fin

theorem Entry.mono {msg msg' suffix : Bytes} {off : Nat} (h : Entry msg suffix off)
    (hmsg : msg <+: msg') : Entry msg' suffix off := by
  obtain ⟨hle, label, labels, fin, hsuffix, hname⟩ := h
  exact ⟨hle, label, labels, fin, hsuffix, hname.mono hmsg⟩

section Pack

variable {compression compression' : Compression} {msg msg' name suffix : Bytes} {off : Nat}

theorem lookup_store (h : (compression.store suffix off).lookup name = some n) :
    (name = suffix ∧ n = off ∧ off ≤ 0x3FFF) ∨ compression.lookup name = some n := by
  rw [Compression.store] at h
  split at h
  · next hle =>
    by_cases hname : name = suffix
    · subst hname
      rw [AList.lookup_insert] at h
      exact .inl ⟨rfl, (Option.some.inj h).symm, hle⟩
    · rw [AList.lookup_insert_ne hname] at h
      exact .inr h
  · exact .inr h

/-- The rest of a label is read up to its dot. -/
theorem packLabels_segment (segment label rest : Bytes) (hne : segment ≠ []) (hdot : dot ∉ label) :
    packLabels compression msg segment (label ++ dot :: rest) =
      packLabels compression msg (segment ++ label) (dot :: rest) := by
  induction label generalizing segment with
  | nil => simp
  | cons c label ih =>
    have hc : c ≠ dot := fun hc => hdot (by simp [hc])
    have hlabel : dot ∉ label := fun hmem => hdot (List.mem_cons_of_mem _ hmem)
    rw [List.cons_append, packLabels, if_neg hc, if_neg hne, ih (segment ++ [c]) (by simp) hlabel,
      List.append_assoc]
    rfl

/-- A known suffix becomes a pointer. -/
theorem packLabels_known {label rest : Bytes} {ptr : Nat} (hne : label ≠ []) (hdot : dot ∉ label)
    (hknown : compression.lookup (label ++ dot :: rest) = some ptr) :
    packLabels compression msg [] (label ++ dot :: rest) = .ok (msg ++ pointer ptr, compression) := by
  obtain ⟨c, label, rfl⟩ := List.exists_cons_of_ne_nil hne
  have hc : c ≠ dot := fun hc => hdot (by simp [hc])
  rw [List.cons_append] at hknown ⊢
  rw [packLabels, if_neg hc, if_pos rfl, hknown]

/-- A label that begins no known suffix is written, and what follows it after it. -/
theorem packLabels_label {label rest : Bytes} (hne : label ≠ []) (hdot : dot ∉ label)
    (hmiss : compression.lookup (label ++ dot :: rest) = none) :
    packLabels compression msg [] (label ++ dot :: rest) =
      if label.length ≥ 64 then .error .segTooLong
      else packLabels (compression.store (label ++ dot :: rest) msg.length)
        (msg ++ UInt8.ofNat label.length :: label) [] rest := by
  obtain ⟨c, label, rfl⟩ := List.exists_cons_of_ne_nil hne
  have hc : c ≠ dot := fun hc => hdot (by simp [hc])
  have hlabel : dot ∉ label := fun hmem => hdot (List.mem_cons_of_mem _ hmem)
  rw [List.cons_append] at hmiss ⊢
  rw [packLabels, if_neg hc, if_pos rfl, hmiss]
  simp only
  rw [packLabels_segment [c] label rest (by simp) hlabel, packLabels, if_pos rfl]
  simp

/-- What the loop has done to a message and a table when it has written a name: the name stands at
the end of the old message, and what is new in the table is right. The pointers on the way are known
suffixes, no longer than the name. -/
structure Written (compression : Compression) (msg name msg' : Bytes)
    (compression' : Compression) : Prop where
  grows : msg <+: msg'
  name_at : ∃ labels depth, unlines dot labels = name ∧
    NameAt msg' depth msg.length labels msg'.length ∧ depth ≤ labels.length ∧
    (depth = 0 ∨ ∃ suffix off, suffix.length ≤ name.length ∧ compression.lookup suffix = some off)
  table : ∀ suffix off, compression'.lookup suffix = some off →
    compression.lookup suffix = some off ∨ Entry msg' suffix off

theorem written_root : Written compression msg [] (msg ++ [0]) compression where
  grows := List.prefix_append _ _
  name_at := ⟨[], 0, rfl, by simpa using .root (holds_end msg [0]), Nat.le_refl 0, .inl rfl⟩
  table _ _ hlookup := .inl hlookup

theorem written_pointer (hlookup : compression.lookup name = some off) (h : Entry msg name off) :
    Written compression msg name (msg ++ pointer off) compression := by
  obtain ⟨hle, label, labels, fin, hname, hat⟩ := h
  have hmsg : msg <+: msg ++ pointer off := List.prefix_append _ _
  refine ⟨hmsg, ⟨label :: labels, labels.length + 1, hname, ?_, Nat.le_refl _,
    .inr ⟨name, off, Nat.le_refl _, hlookup⟩⟩, fun _ _ hold => .inl hold⟩
  rw [List.length_append]
  exact .pointer hle (holds_end msg _) (hat.mono hmsg)

/-- The entry of a name says nothing of the names shorter than it. -/
theorem lookup_of_lookup_store (hlookup : (compression.store name off).lookup suffix = some n)
    (hshorter : suffix.length < name.length) : compression.lookup suffix = some n := by
  obtain ⟨rfl, -, -⟩ | hold := lookup_store hlookup
  · omega
  · exact hold

/-- A label goes before a name that is written after it. -/
theorem Written.label {label rest : Bytes} (hne : label ≠ []) (hdot : dot ∉ label)
    (hlength : label.length < 64)
    (h : Written (compression.store (label ++ dot :: rest) msg.length)
      (msg ++ UInt8.ofNat label.length :: label) rest msg' compression') :
    Written compression msg (label ++ dot :: rest) msg' compression' := by
  obtain ⟨hnext, ⟨labels, depth, hlabels, hat, hdepth, hpointers⟩, hnew⟩ := h
  have hshorter : rest.length < (label ++ dot :: rest).length := by simp; omega
  have hlen : (msg ++ UInt8.ofNat label.length :: label).length = msg.length + 1 + label.length := by
    simp only [List.length_append, List.length_cons]
    omega
  rw [hlen] at hat
  have hwhole : NameAt msg' depth msg.length (label :: labels) msg'.length :=
    .label hne hlength hdot ((holds_end msg _).mono hnext) hat
  have hname : unlines dot (label :: labels) = label ++ dot :: rest := by
    rw [← hlabels]
    simp [unlines]
  refine ⟨(List.prefix_append _ _).trans hnext, ⟨label :: labels, depth, hname, hwhole,
    Nat.le_succ_of_le hdepth, ?_⟩, fun suffix off hlookup => ?_⟩
  · obtain hzero | ⟨suffix, off, hsuffix, hlookup⟩ := hpointers
    · exact .inl hzero
    · exact .inr ⟨suffix, off, by omega, lookup_of_lookup_store hlookup (by omega)⟩
  · obtain hlookup | hentry := hnew suffix off hlookup
    · obtain ⟨rfl, rfl, hle⟩ | hlookup := lookup_store hlookup
      · exact .inr ⟨hle, label, labels, _, hname, hwhole.deeper hdepth⟩
      · exact .inl hlookup
    · exact .inr hentry

theorem getLast?_rest {label rest : Bytes} (h : (label ++ dot :: rest).getLast? = some dot) :
    rest = [] ∨ rest.getLast? = some dot := by
  cases rest with
  | nil => exact .inl rfl
  | cons c cs =>
    rw [List.getLast?_append, List.getLast?_cons_cons, List.getLast?_cons] at h
    exact .inr (by simpa [List.getLast?_cons] using h)

/-- The loop writes the name. The table has to be right for the suffixes of the name only, as the
labels before it have their entry already while their name is not yet there. -/
theorem packLabels_ok (h : packLabels compression msg [] name = .ok (msg', compression'))
    (hname : name = [] ∨ name.getLast? = some dot)
    (htable : ∀ suffix off, suffix.length ≤ name.length →
      compression.lookup suffix = some off → Entry msg suffix off) :
    Written compression msg name msg' compression' := by
  induction hn : name.length using Nat.strong_induction_on
    generalizing name msg compression with
  | _ n ih =>
    subst hn
    obtain rfl | hlast := hname
    · cases h
      exact written_root
    obtain ⟨label, rest, rfl, hdot⟩ := List.eq_append_cons_of_mem (List.mem_of_getLast? hlast)
    by_cases hne : label = []
    · subst hne
      rw [List.nil_append, packLabels, if_pos rfl, if_neg (by simp), if_pos (by simp)] at h
      cases h
    cases hlookup : compression.lookup (label ++ dot :: rest) with
    | some ptr =>
      rw [packLabels_known hne hdot hlookup] at h
      cases h
      exact written_pointer hlookup (htable _ ptr (Nat.le_refl _) hlookup)
    | none =>
      rw [packLabels_label hne hdot hlookup, ite_error_eq_ok] at h
      obtain ⟨hlength, h⟩ := h
      have hshorter : rest.length < (label ++ dot :: rest).length := by simp; omega
      refine Written.label hne hdot (by omega) (ih _ hshorter h (getLast?_rest hlast) ?_ rfl)
      intro suffix off hsuffix hlookup
      have hold := lookup_of_lookup_store hlookup (by omega)
      exact (htable suffix off (by omega) hold).mono (List.prefix_append _ _)

/-- A table of suffixes of the names that have been written. -/
def Known (compression : Compression) (msg : Bytes) : Prop :=
  ∀ suffix off, compression.lookup suffix = some off → Entry msg suffix off

/-- A packed name is read back, and the offset after it, in any message that begins so. A name that
is not the first may have ten labels, as that many pointers are followed. -/
theorem packName_ok (h : packName name msg compression = .ok (msg', compression'))
    (hknown : Known compression msg) :
    msg <+: msg' ∧ Known compression' msg' ∧
      (compression = ∅ ∨ name.count dot ≤ 10 → ∀ whole, msg' <+: whole →
        unpackName whole msg.length = .ok (name, msg'.length)) := by
  rw [packName, ite_error_eq_ok, ite_error_eq_ok] at h
  obtain ⟨hlength, hlast, h⟩ := h
  by_cases hroot : name = [dot]
  · rw [if_pos hroot] at h
    cases h
    have hmsg : msg <+: msg ++ [0] := List.prefix_append _ _
    refine ⟨hmsg, fun suffix off hlookup => (hknown suffix off hlookup).mono hmsg,
      fun _ whole hwhole => ?_⟩
    rw [unpackName, unpackLabels_root ((holds_end msg [0]).mono hwhole), hroot]
    simp
  · rw [if_neg hroot] at h
    have hlast : name.getLast? = some dot := not_not.mp hlast
    obtain ⟨hmsg, ⟨labels, depth, hlabels, hat, hdepth, hpointers⟩, hnew⟩ :=
      packLabels_ok h (.inr hlast) fun suffix off _ hlookup => hknown suffix off hlookup
    refine ⟨hmsg, fun suffix off hlookup => ?_, fun hfew whole hwhole => ?_⟩
    · obtain hold | hentry := hnew suffix off hlookup
      · exact (hknown suffix off hold).mono hmsg
      · exact hentry
    · have hten : depth ≤ 10 := by
        obtain rfl | hcount := hfew
        · obtain rfl | ⟨_, _, -, hlookup⟩ := hpointers
          · omega
          · simp at hlookup
        · rw [← hlabels, count_unlines hat.dot_not_mem] at hcount
          omega
      have hne : name ≠ [] := by
        rintro rfl
        cases hlast
      rw [unpackName, (hat.mono hwhole).unpackLabels (by omega), hlabels]
      simp [hne, hlength]

/-- How the texts of a record are written. -/
def texts (txt : List Bytes) : Bytes := txt.flatMap fun t => UInt8.ofNat t.length :: t

theorem foldlM_packText_ok {txt : List Bytes} (h : txt.foldlM packText msg = .ok msg') :
    msg' = msg ++ texts txt ∧ ∀ t ∈ txt, t.length ≤ 255 := by
  induction txt generalizing msg with
  | nil =>
    cases h
    simp [texts]
  | cons t txt ih =>
    rw [List.foldlM_cons] at h
    obtain ⟨next, hnext, h⟩ := bind_eq_ok.mp h
    rw [packText, ite_error_eq_ok] at hnext
    obtain ⟨hlength, hnext⟩ := hnext
    cases hnext
    obtain ⟨rfl, hrest⟩ := ih h
    refine ⟨by simp [texts], List.forall_mem_cons.mpr ⟨by omega, hrest⟩⟩

theorem unpackTexts_texts {txt : List Bytes} {off length n : Nat} (h : Holds msg off (texts txt))
    (hlength : ∀ t ∈ txt, t.length ≤ 255) (hn : n + (texts txt).length = length) :
    unpackTexts msg off length n = .ok txt := by
  induction txt generalizing off n with
  | nil =>
    rw [unpackTexts, if_neg (by simp [texts] at hn; omega)]
  | cons t txt ih =>
    obtain ⟨ht, hrest⟩ := List.forall_mem_cons.mp hlength
    have hsplit : texts (t :: txt) = (UInt8.ofNat t.length :: t) ++ texts txt := by simp [texts]
    rw [hsplit] at h hn
    rw [List.length_append, List.length_cons] at hn
    obtain ⟨hfirst, hafter⟩ := h.split
    have hsize : (UInt8.ofNat t.length).toNat = t.length := by
      rw [UInt8.toNat_ofNat']
      omega
    have hle := hfirst.le (by simp)
    have hslice := (Holds.split (a := [UInt8.ofNat t.length]) hfirst).2.slice_eq
    rw [List.length_cons] at hle hafter
    rw [List.length_singleton] at hslice
    have htext : unpackText msg off = .ok (t, off + 1 + t.length) := by
      simp only [unpackText, hfirst.getElem?, hsize]
      rw [if_neg (by omega), hslice]
    have hnext : off + (t.length + 1) = off + 1 + t.length := by omega
    rw [hnext] at hafter
    rw [unpackTexts, if_pos (by omega), htext]
    simp only
    rw [if_neg (by omega), ih hafter hrest (by omega)]
    rfl

theorem fixLen_eq (front body : Bytes) :
    fixLen (front ++ bigEndian 2 0 ++ body) front.length (front ++ bigEndian 2 0).length =
      if body.length > 65535 then .error .resTooLong
      else .ok (front ++ (bigEndian 2 body.length ++ body)) := by
  have hbody : (front ++ bigEndian 2 0 ++ body).length - (front ++ bigEndian 2 0).length =
      body.length := by
    rw [List.length_append, Nat.add_sub_cancel_left]
  have htake : (front ++ bigEndian 2 0 ++ body).take front.length = front := by
    rw [List.append_assoc, List.take_left]
  have hdrop : (front ++ bigEndian 2 0 ++ body).drop (front.length + 2) = body :=
    List.drop_left' (by rw [List.length_append, length_bigEndian])
  simp only [fixLen, hbody, htake, hdrop]
  rw [List.append_assoc]

/-- The fields of a record after its name. -/
def TXTRecord.fields (r : TXTRecord) : Bytes :=
  bigEndian 2 typeTXT ++ (bigEndian 2 r.rclass ++ (bigEndian 4 r.ttl ++
    (bigEndian 2 (texts r.txt).length ++ texts r.txt)))

theorem TXTRecord.pack_eq {r : TXTRecord} (h : r.pack msg compression = .ok (msg', compression')) :
    ∃ named, packName r.name msg compression = .ok (named, compression') ∧
      (∀ t ∈ r.txt, t.length ≤ 255) ∧ (texts r.txt).length ≤ 65535 ∧ msg' = named ++ r.fields := by
  obtain ⟨⟨headed, lenOff, _⟩, hheader, h⟩ := bind_eq_ok.mp h
  obtain ⟨⟨named, _⟩, hname, hheader⟩ := bind_eq_ok.mp (mapError_eq_ok.mp hheader)
  cases hheader
  obtain ⟨body, hbody, h⟩ := bind_eq_ok.mp h
  obtain ⟨rfl, hlength⟩ := foldlM_packText_ok (mapError_eq_ok.mp hbody)
  obtain ⟨fixed, hfix, h⟩ := bind_eq_ok.mp h
  cases h
  rw [fixLen_eq, ite_error_eq_ok] at hfix
  obtain ⟨hsize, hfix⟩ := hfix
  cases hfix
  refine ⟨named, mapError_eq_ok.mp hname, hlength, by omega, ?_⟩
  simp only [fields, List.append_assoc]

theorem unpackResourceHeader_fields {r : TXTRecord} {named : Bytes} {off : Nat}
    (hname : unpackName msg off = .ok (r.name, named.length))
    (hsize : (texts r.txt).length ≤ 65535) (hlength : ∀ t ∈ r.txt, t.length ≤ 255)
    (h : Holds msg named.length r.fields) :
    ∃ body, unpackResourceHeader msg off = .ok (⟨r.name, typeTXT, (texts r.txt).length⟩, body) ∧
      unpackTXTResource msg body (texts r.txt).length = .ok r.txt ∧
      body + (texts r.txt).length = (named ++ r.fields).length := by
  obtain ⟨htype, h⟩ := h.split
  obtain ⟨hclass, h⟩ := h.split
  obtain ⟨httl, h⟩ := h.split
  obtain ⟨hlen, hbody⟩ := h.split
  have htype := htype.unpackUint (by simp [bigEndian])
  have hclass := hclass.unpackUint (by simp [bigEndian])
  have httl := httl.unpackUint (by simp [bigEndian])
  have hlen := hlen.unpackUint (by simp [bigEndian])
  rw [ofBigEndian_bigEndian (by decide)] at htype
  rw [ofBigEndian_bigEndian (by omega)] at hlen
  simp only [length_bigEndian] at htype hclass httl hlen hbody
  refine ⟨named.length + 2 + 2 + 4 + 2, ?_, unpackTexts_texts hbody hlength (Nat.zero_add _), ?_⟩
  · simp only [unpackResourceHeader, hname, unpackUint16, unpackUint32, htype, hclass, httl, hlen,
      mapError_ok, ok_bind]
    rfl
  · simp only [TXTRecord.fields, List.length_append, length_bigEndian]
    omega

/-- From `off` on the message has the record, which ends before `fin`. -/
def HasRecord (msg : Bytes) (off : Nat) (r : TXTRecord) (fin : Nat) : Prop :=
  ∃ hdr body, unpackResourceHeader msg off = .ok (hdr, body) ∧ hdr.name = r.name ∧
    hdr.type = typeTXT ∧ unpackTXTResource msg body hdr.length = .ok r.txt ∧ body + hdr.length = fin

theorem TXTRecord.pack_ok {r : TXTRecord} (h : r.pack msg compression = .ok (msg', compression'))
    (hknown : Known compression msg) :
    msg <+: msg' ∧ Known compression' msg' ∧
      (compression = ∅ ∨ r.name.count dot ≤ 10 → ∀ whole, msg' <+: whole →
        HasRecord whole msg.length r msg'.length) := by
  obtain ⟨named, hname, hlength, hsize, rfl⟩ := pack_eq h
  obtain ⟨hmsg, hknown', hread⟩ := packName_ok hname hknown
  have hfields : named <+: named ++ r.fields := List.prefix_append _ _
  refine ⟨hmsg.trans hfields, fun suffix off hlookup => (hknown' suffix off hlookup).mono hfields,
    fun hfew whole hwhole => ?_⟩
  obtain ⟨body, hheader, htexts, hend⟩ := unpackResourceHeader_fields
    (hread hfew whole (hfields.trans hwhole)) hsize hlength ((holds_end named _).mono hwhole)
  exact ⟨_, body, hheader, rfl, rfl, htexts, hend⟩

/-- From `off` on the message has these records, one after the other. -/
def HasRecords (msg : Bytes) : Nat → List TXTRecord → Prop
  | _, [] => True
  | off, r :: rest => ∃ fin, HasRecord msg off r fin ∧ HasRecords msg fin rest

theorem packAnswers_ok {answers : List TXTRecord}
    (h : packAnswers answers msg compression = .ok msg') (hknown : Known compression msg)
    (hfirst : compression = ∅ ∨ ∀ r ∈ answers, r.name.count dot ≤ 10)
    (hrest : ∀ r ∈ answers.tail, r.name.count dot ≤ 10) :
    msg <+: msg' ∧ HasRecords msg' msg.length answers := by
  induction answers generalizing msg compression with
  | nil =>
    cases h
    exact ⟨List.prefix_refl _, trivial⟩
  | cons r rest ih =>
    obtain ⟨⟨next, compression'⟩, hpack, h⟩ := bind_eq_ok.mp h
    obtain ⟨hmsg, hknown', hread⟩ := TXTRecord.pack_ok (mapError_eq_ok.mp hpack) hknown
    have htail : ∀ r ∈ rest.tail, r.name.count dot ≤ 10 := fun r hr =>
      hrest r (List.mem_of_mem_tail hr)
    obtain ⟨hnext, hrecords⟩ := ih h hknown' (.inr hrest) htail
    have hfew : compression = ∅ ∨ r.name.count dot ≤ 10 :=
      hfirst.imp_right fun hall => hall r List.mem_cons_self
    exact ⟨hmsg.trans hnext, next.length, hread hfew msg' hnext, hrecords⟩

theorem Header.unpack_packHeader {n : Nat} (hn : n ≤ 65535) (h : packHeader n <+: msg) :
    Header.unpack msg 0 = .ok (⟨0, n, 0, 0⟩, 12) := by
  have hheader : Holds msg 0 (packHeader n) := by rwa [Holds, List.drop_zero]
  simp only [packHeader, List.append_assoc] at hheader
  obtain ⟨hid, hheader⟩ := hheader.split
  obtain ⟨hbits, hheader⟩ := hheader.split
  obtain ⟨hquestions, hheader⟩ := hheader.split
  obtain ⟨hanswers, hheader⟩ := hheader.split
  obtain ⟨hauthorities, hadditionals⟩ := hheader.split
  have hanswers := hanswers.unpackUint (by simp [bigEndian])
  rw [ofBigEndian_bigEndian (by omega)] at hanswers
  simp only [length_bigEndian] at hanswers hauthorities hadditionals hquestions hbits
  have hzero {off : Nat} (h : Holds msg off (bigEndian 2 0)) :
      unpackUint 2 msg off = .ok (0, off + 2) := h.unpackUint (by simp [bigEndian])
  simp only [Header.unpack, unpackUint16, hzero hid, hzero hbits, hzero hquestions, hanswers,
    hzero hauthorities, hzero hadditionals, mapError_ok, ok_bind]
  rfl

/-- A packed message has its records as answers. All names but the first have few labels, so that no
chain of pointers is too long to be followed. -/
theorem pack_ok {answers : List TXTRecord} (h : pack answers = .ok msg)
    (hrest : ∀ r ∈ answers.tail, r.name.count dot ≤ 10) :
    Header.unpack msg 0 = .ok (⟨0, answers.length, 0, 0⟩, 12) ∧ HasRecords msg 12 answers := by
  rw [pack, ite_error_eq_ok] at h
  obtain ⟨hcount, h⟩ := h
  have hempty : Known ∅ (packHeader answers.length) := by simp [Known]
  obtain ⟨hmsg, hrecords⟩ := packAnswers_ok h hempty (.inl rfl) hrest
  exact ⟨Header.unpack_packHeader (by omega) hmsg, hrecords⟩

end Pack

end Meshd.Framework.Dns

import Meshd.Framework.Bytes
import Meshd.Framework.Fallible
import Meshd.Framework.Hoare

namespace Meshd.Framework.Dns

/-! A DNS message, read record by record. -/

inductive Error where
  | notStarted
  | sectionDone
  | baseLen
  | calcLen
  | reserved
  | tooManyPtr
  | invalidPtr
  | invalidName
  | nameTooLong
  | nested (s : String) (err : Error)
deriving DecidableEq

def Error.text : Error → String
  | notStarted => "parsing/packing of this type isn't available yet"
  | sectionDone => "parsing/packing of this section has completed"
  | baseLen => "insufficient data for base length type"
  | calcLen => "insufficient data for calculated length type"
  | reserved => "segment prefix is reserved"
  | tooManyPtr => "too many pointers (>10)"
  | invalidPtr => "invalid pointer"
  | invalidName => "invalid dns name"
  | nameTooLong => "name too long"
  | nested s err => s ++ ": " ++ err.text

/-- `msg[beginOff:endOff]`. -/
def slice (msg : Bytes) (beginOff endOff : Nat) : Bytes := (msg.drop beginOff).take (endOff - beginOff)

/-- A number of `width` bytes and the offset after it. -/
def unpackUint (width : Nat) (msg : Bytes) (off : Nat) : Except Error (Nat × Nat) :=
  if off + width > msg.length then .error .baseLen
  else .ok (ofBigEndian (slice msg off (off + width)), off + width)

def unpackUint16 := unpackUint 2

def unpackUint32 := unpackUint 4

def skipUint16 (msg : Bytes) (off : Nat) : Except Error Nat :=
  if off + 2 > msg.length then .error .baseLen else .ok (off + 2)

def unpackText (msg : Bytes) (off : Nat) : Except Error (Bytes × Nat) :=
  match msg[off]? with
  | none => .error .baseLen
  | some length =>
    let endOff := off + 1 + length.toNat
    if endOff > msg.length then .error .calcLen else .ok (slice msg (off + 1) endOff, endOff)

def dot : UInt8 := 46

/-- The loop of `Name.unpack`: the labels from `currOff` on, each with a dot after it, and the offset
of what follows the name. That is after the first pointer, if there is one. -/
def unpackLabels (msg : Bytes) (ptr currOff newOff : Nat) (name : Bytes) :
    Except Error (Bytes × Nat) :=
  if h : currOff < msg.length then
    let c := msg[currOff].toNat
    if c = 0 then .ok (name, if ptr = 0 then currOff + 1 else newOff)
    else if c < 0x40 then
      let endOff := currOff + 1 + c
      if endOff > msg.length then .error .calcLen
      else if dot ∈ slice msg (currOff + 1) endOff then .error .invalidName
      else unpackLabels msg ptr endOff newOff (name ++ slice msg (currOff + 1) endOff ++ [dot])
    else if 0xC0 ≤ c then
      if h' : currOff + 1 < msg.length then
        -- more pointers may be a loop
        if ptr < 10 then
          unpackLabels msg (ptr + 1) ((c - 0xC0) * 256 + msg[currOff + 1].toNat)
            (if ptr = 0 then currOff + 2 else newOff) name
        else .error .tooManyPtr
      else .error .invalidPtr
    else .error .reserved
  else .error .baseLen
termination_by (10 - ptr) * (msg.length + 1) + (msg.length - currOff)
decreasing_by
  · omega
  · have hptr : 10 - ptr = 10 - (ptr + 1) + 1 := by omega
    rw [hptr, Nat.add_mul]
    omega

def unpackName (msg : Bytes) (off : Nat) : Except Error (Bytes × Nat) := do
  let (labels, newOff) ← unpackLabels msg 0 off off []
  let name := if labels = [] then [dot] else labels
  if name.length > 254 then .error .nameTooLong else .ok (name, newOff)

/-- A name that ends in a dot, as every name of a message does. -/
def Rooted (name : Bytes) : Prop := ∃ front, name = front ++ [dot]

theorem unpackLabels_rooted {msg : Bytes} {ptr currOff newOff : Nat} {name : Bytes}
    {r : Bytes × Nat} (h : unpackLabels msg ptr currOff newOff name = .ok r)
    (hname : name = [] ∨ Rooted name) : r.1 = [] ∨ Rooted r.1 := by
  fun_induction unpackLabels msg ptr currOff newOff name with
  | case1 =>
    cases h
    exact hname
  | case2 => cases h
  | case3 => cases h
  | case4 ptr currOff newOff name hlt c hc hlabel endOff hend hdot ih =>
    exact ih h (.inr ⟨_, rfl⟩)
  | case5 ptr currOff newOff name hlt c hc hlabel hptr hlt' hfew ih => exact ih h hname
  | case6 => cases h
  | case7 => cases h
  | case8 => cases h
  | case9 => cases h

theorem unpackName_rooted {msg : Bytes} {off : Nat} {r : Bytes × Nat}
    (h : unpackName msg off = .ok r) : Rooted r.1 := by
  obtain ⟨⟨labels, newOff⟩, hlabels, h⟩ := bind_eq_ok.mp h
  rw [ite_error_eq_ok] at h
  obtain ⟨-, h⟩ := h
  cases h
  obtain rfl | hrooted := unpackLabels_rooted hlabels (.inl rfl)
  · exact ⟨[], rfl⟩
  · by_cases hnil : labels = []
    · exact ⟨[], by simp [hnil]⟩
    · simpa [hnil] using hrooted

/-- The offset after a name, whose pointers are not followed. -/
def skipName (msg : Bytes) (newOff : Nat) : Except Error Nat :=
  if h : newOff < msg.length then
    let c := msg[newOff].toNat
    if c = 0 then .ok (newOff + 1)
    else if c < 0x40 then
      if newOff + 1 + c > msg.length then .error .calcLen else skipName msg (newOff + 1 + c)
    else if 0xC0 ≤ c then .ok (newOff + 2)
    else .error .reserved
  else .error .baseLen
termination_by msg.length - newOff

def typeTXT : Nat := 16

/-- The fields of a resource header that are read after it is unpacked. -/
structure ResourceHeader where
  name : Bytes
  type : Nat
  length : Nat
deriving DecidableEq

def unpackResourceHeader (msg : Bytes) (off : Nat) : Except Error (ResourceHeader × Nat) := do
  let (name, newOff) ← (unpackName msg off).mapError (.nested "Name")
  let (type, newOff) ← (unpackUint16 msg newOff).mapError (.nested "Type")
  let (_class, newOff) ← (unpackUint16 msg newOff).mapError (.nested "Class")
  let (_ttl, newOff) ← (unpackUint32 msg newOff).mapError (.nested "TTL")
  let (length, newOff) ← (unpackUint16 msg newOff).mapError (.nested "Length")
  return ({ name, type, length }, newOff)

theorem unpackResourceHeader_rooted {msg : Bytes} {off : Nat} {r : ResourceHeader × Nat}
    (h : unpackResourceHeader msg off = .ok r) : Rooted r.1.name := by
  obtain ⟨⟨name, newOff⟩, hname, h⟩ := bind_eq_ok.mp h
  obtain ⟨type, -, h⟩ := bind_eq_ok.mp h
  obtain ⟨class', -, h⟩ := bind_eq_ok.mp h
  obtain ⟨ttl, -, h⟩ := bind_eq_ok.mp h
  obtain ⟨length, -, h⟩ := bind_eq_ok.mp h
  cases h
  exact unpackName_rooted (mapError_eq_ok.mp hname)

/-- The loop of `unpackTXTResource`, after `n` of the `length` bytes. -/
def unpackTexts (msg : Bytes) (off length n : Nat) : Except Error (List Bytes) :=
  if n < length then
    match unpackText msg off with
    | .error e => .error (.nested "text" e)
    | .ok (t, off) =>
      if length - n < t.length + 1 then .error .calcLen
      else (unpackTexts msg off length (n + (t.length + 1))).map (t :: ·)
  else .ok []
termination_by length - n

def unpackTXTResource (msg : Bytes) (off length : Nat) : Except Error (List Bytes) :=
  unpackTexts msg off length 0

inductive Section where
  | notStarted
  | header
  | questions
  | answers
  | authorities
  | additionals
  | done
deriving DecidableEq

namespace Section

/-- The number of the section in the order of a message. -/
def rank : Section → Nat
  | notStarted => 0
  | header => 1
  | questions => 2
  | answers => 3
  | authorities => 4
  | additionals => 5
  | done => 6

def next : Section → Section
  | notStarted => header
  | header => questions
  | questions => answers
  | answers => authorities
  | authorities => additionals
  | additionals => done
  | done => done

end Section

/-- How many records each section has. -/
structure Header where
  questions : Nat
  answers : Nat
  authorities : Nat
  additionals : Nat
deriving DecidableEq

namespace Header

def count (h : Header) : Section → Nat
  | .questions => h.questions
  | .answers => h.answers
  | .authorities => h.authorities
  | .additionals => h.additionals
  | _ => 0

def unpack (msg : Bytes) (off : Nat) : Except Error (Header × Nat) := do
  let (_id, newOff) ← (unpackUint16 msg off).mapError (.nested "id")
  let (_bits, newOff) ← (unpackUint16 msg newOff).mapError (.nested "bits")
  let (questions, newOff) ← (unpackUint16 msg newOff).mapError (.nested "questions")
  let (answers, newOff) ← (unpackUint16 msg newOff).mapError (.nested "answers")
  let (authorities, newOff) ← (unpackUint16 msg newOff).mapError (.nested "authorities")
  let (additionals, newOff) ← (unpackUint16 msg newOff).mapError (.nested "additionals")
  return ({ questions, answers, authorities, additionals }, newOff)

end Header

structure Parser where
  msg : Bytes
  header : Header
  sec : Section
  off : Nat
  index : Nat := 0
  resHeaderValid : Bool := false
  resHeaderOffset : Nat := 0
  resHeaderType : Nat := 0
  resHeaderLength : Nat := 0
deriving DecidableEq

namespace Parser

def start (msg : Bytes) : Except Error Parser := do
  let (header, off) ← (Header.unpack msg 0).mapError (.nested "unpacking header")
  return { msg, header, off, sec := .questions }

/-- Whether the section has a record left; after its last one the next section begins. -/
def checkAdvance (sec : Section) : EStateM Error Parser Unit := do
  let p ← get
  if p.sec.rank < sec.rank then throw .notStarted
  else if p.sec.rank > sec.rank then throw .sectionDone
  else if p.index = p.header.count sec then do
    set { p with resHeaderValid := false, index := 0, sec := p.sec.next }
    throw .sectionDone
  else set { p with resHeaderValid := false }

/-- Back to the beginning of a header that was read without its body. -/
def rewind (p : Parser) : Parser :=
  if p.resHeaderValid then { p with off := p.resHeaderOffset } else p

def resourceHeader (sec : Section) : EStateM Error Parser ResourceHeader := do
  modify rewind
  checkAdvance sec
  let p ← get
  let (hdr, off) ← ofExcept (unpackResourceHeader p.msg p.off)
  set { p with
    resHeaderValid := true
    resHeaderOffset := p.off
    resHeaderType := hdr.type
    resHeaderLength := hdr.length
    off := off }
  return hdr

/-- The offset after a question: its name, type and class. -/
def questionEnd (msg : Bytes) (off : Nat) : Except Error Nat := do
  let off ← (skipName msg off).mapError (.nested "skipping Question Name")
  let off ← (skipUint16 msg off).mapError (.nested "skipping Question Type")
  (skipUint16 msg off).mapError (.nested "skipping Question Class")

def skipQuestion : EStateM Error Parser Unit := do
  checkAdvance .questions
  let p ← get
  let off ← ofExcept (questionEnd p.msg p.off)
  set { p with off := off, index := p.index + 1 }

def answerHeader : EStateM Error Parser ResourceHeader := resourceHeader .answers

def txtResource : EStateM Error Parser (List Bytes) := do
  let p ← get
  if p.resHeaderValid = false ∨ p.resHeaderType ≠ typeTXT then throw .notStarted
  else do
    let txt ← ofExcept (unpackTXTResource p.msg p.off p.resHeaderLength)
    set { p with off := p.off + p.resHeaderLength, resHeaderValid := false, index := p.index + 1 }
    return txt

/-! ### What a step of the parser does -/

variable {sec : Section} {p p' q : Parser} {hdr : ResourceHeader} {e : Error} {u : Unit}
  {msg : Bytes} {off n : Nat}

theorem checkAdvance_eq (sec : Section) (p : Parser) :
    checkAdvance sec p =
      if p.sec.rank < sec.rank then .error .notStarted p
      else if p.sec.rank > sec.rank then .error .sectionDone p
      else if p.index = p.header.count sec then
        .error .sectionDone { p with resHeaderValid := false, index := 0, sec := p.sec.next }
      else .ok () { p with resHeaderValid := false } := by
  change (ite (p.sec.rank < sec.rank) _ _ : EStateM Error Parser Unit) p = _
  split
  · rfl
  · split
    · rfl
    · split
      · rfl
      · rfl

theorem checkAdvance_ok (h : checkAdvance sec p = .ok u q) :
    p.sec.rank = sec.rank ∧ p.index ≠ p.header.count sec ∧
      q = { p with resHeaderValid := false } := by
  rw [checkAdvance_eq] at h
  split at h
  · cases h
  · split at h
    · cases h
    · split at h
      · cases h
      · next hleft =>
        cases h
        exact ⟨by omega, hleft, rfl⟩

theorem checkAdvance_of_left (hrank : p.sec.rank = sec.rank) (hleft : p.index ≠ p.header.count sec) :
    checkAdvance sec p = .ok () { p with resHeaderValid := false } := by
  rw [checkAdvance_eq, if_neg (by omega), if_neg (by omega), if_neg hleft]

theorem checkAdvance_error (h : checkAdvance sec p = .error e q) (he : e ≠ .sectionDone) :
    q = p := by
  rw [checkAdvance_eq] at h
  split at h
  · cases h
    rfl
  · split at h
    · cases h
      exact absurd rfl he
    · split at h
      · cases h
        exact absurd rfl he
      · cases h

/-- The parser after a header of the message. -/
def afterHeader (q : Parser) (hdr : ResourceHeader) (off : Nat) : Parser :=
  { q with
    resHeaderValid := true
    resHeaderOffset := q.off
    resHeaderType := hdr.type
    resHeaderLength := hdr.length
    off := off }

theorem resourceHeader_eq (sec : Section) (p : Parser) :
    resourceHeader sec p =
      match checkAdvance sec p.rewind with
      | .error e q => .error e q
      | .ok _ q =>
        match unpackResourceHeader q.msg q.off with
        | .error e => .error e q
        | .ok (hdr, off) => .ok hdr (q.afterHeader hdr off) := by
  have hrun : resourceHeader sec p = (checkAdvance sec >>= fun _ => do
      let q ← get
      let (hdr, off) ← ofExcept (unpackResourceHeader q.msg q.off)
      set (q.afterHeader hdr off)
      return hdr) p.rewind := rfl
  rw [hrun]
  change EStateM.run (_ >>= _) p.rewind = _
  rw [EStateM.run_bind]
  cases hq : checkAdvance sec p.rewind with
  | error e q => simp [EStateM.run, hq]
  | ok u q =>
    simp only [EStateM.run, hq]
    change (ofExcept (unpackResourceHeader q.msg q.off) >>= _ : EStateM Error Parser _) q = _
    cases unpackResourceHeader q.msg q.off with
    | error e => rfl
    | ok r => rfl

theorem resourceHeader_ok (h : resourceHeader sec p = .ok hdr p') :
    ∃ q off, checkAdvance sec p.rewind = .ok () q ∧
      unpackResourceHeader q.msg q.off = .ok (hdr, off) ∧ p' = q.afterHeader hdr off := by
  rw [resourceHeader_eq] at h
  cases hq : checkAdvance sec p.rewind with
  | error e q => simp [hq] at h
  | ok u q =>
    simp only [hq] at h
    cases hr : unpackResourceHeader q.msg q.off with
    | error e => simp [hr] at h
    | ok r =>
      simp only [hr] at h
      cases h
      exact ⟨q, r.2, rfl, hr, rfl⟩

/-- A header is read again, and is the same, until its body is read or skipped. -/
theorem resourceHeader_again (h : resourceHeader sec p = .ok hdr p') :
    resourceHeader sec p' = .ok hdr p' := by
  obtain ⟨q, off, hq, hunpack, rfl⟩ := resourceHeader_ok h
  obtain ⟨hrank, hleft, rfl⟩ := checkAdvance_ok hq
  have hadvance := checkAdvance_of_left (p := ({ p.rewind with
    resHeaderValid := false } : Parser).afterHeader hdr off |>.rewind) hrank hleft
  rw [resourceHeader_eq, hadvance]
  simp only [afterHeader, rewind, ↓reduceIte] at hunpack ⊢
  rw [hunpack]

@[simp] theorem rewind_rewind (p : Parser) : p.rewind.rewind = p.rewind := by
  cases hvalid : p.resHeaderValid with
  | false => simp [rewind, hvalid]
  | true => simp [rewind, hvalid]

/-- What is no header fails again, with the same error. -/
theorem resourceHeader_error_again (h : resourceHeader sec p = .error e p')
    (he : e ≠ .sectionDone) : resourceHeader sec p' = .error e p' := by
  rw [resourceHeader_eq] at h
  cases hq : checkAdvance sec p.rewind with
  | error e' q =>
    simp only [hq] at h
    cases h
    have hsame : p' = p.rewind := checkAdvance_error hq he
    rw [resourceHeader_eq, hsame, rewind_rewind, hq, hsame]
  | ok u q =>
    obtain ⟨hrank, hleft, rfl⟩ := checkAdvance_ok hq
    simp only [hq] at h
    cases hr : unpackResourceHeader p.rewind.msg p.rewind.off with
    | ok r => simp [hr] at h
    | error e' =>
      simp only [hr] at h
      cases h
      have hadvance := checkAdvance_of_left
        (p := { p.rewind with resHeaderValid := false }) hrank hleft
      have hrewind : ({ p.rewind with resHeaderValid := false } : Parser).rewind =
          { p.rewind with resHeaderValid := false } := rfl
      rw [resourceHeader_eq, hrewind, hadvance]
      simp only [hr]

theorem resourceHeader_rooted (h : resourceHeader sec p = .ok hdr p') : Rooted hdr.name := by
  obtain ⟨q, off, -, hunpack, -⟩ := resourceHeader_ok h
  exact unpackResourceHeader_rooted hunpack

/-! ### The questions -/

theorem skipUint16_ok {off' : Nat} (h : skipUint16 msg off = .ok off') : off < off' := by
  rw [skipUint16, ite_error_eq_ok] at h
  obtain ⟨-, h⟩ := h
  cases h
  omega

theorem skipName_ok {off' : Nat} (h : skipName msg off = .ok off') :
    off < off' ∧ off < msg.length := by
  fun_induction skipName msg off with
  | case1 off hlt c hc =>
    cases h
    omega
  | case2 => cases h
  | case3 off hlt c hc hlabel hend ih =>
    have hrest := ih h
    omega
  | case4 off hlt c hc hlabel hptr =>
    cases h
    omega
  | case5 => cases h
  | case6 => cases h

theorem questionEnd_ok {off' : Nat} (h : questionEnd msg off = .ok off') :
    off < off' ∧ off < msg.length := by
  obtain ⟨off₁, hname, h⟩ := bind_eq_ok.mp h
  obtain ⟨off₂, htype, hclass⟩ := bind_eq_ok.mp h
  have h₁ := skipName_ok (mapError_eq_ok.mp hname)
  have h₂ := skipUint16_ok (mapError_eq_ok.mp htype)
  have h₃ := skipUint16_ok (mapError_eq_ok.mp hclass)
  omega

/-- A question takes bytes of the message. -/
theorem skipQuestion_ok (h : skipQuestion p = .ok u p') :
    p'.msg = p.msg ∧ p.off < p'.off ∧ p.off < p.msg.length := by
  obtain ⟨_, q, hq, h⟩ := run_bind_ok.mp h
  obtain ⟨-, -, rfl⟩ := checkAdvance_ok hq
  obtain ⟨_, _, hget, h⟩ := run_bind_ok.mp h
  cases hget
  obtain ⟨off, _, hoff, h⟩ := run_bind_ok.mp h
  cases h
  cases hend : questionEnd p.msg p.off with
  | error e =>
    rw [hend] at hoff
    cases hoff
  | ok off' =>
    rw [hend] at hoff
    cases hoff
    exact ⟨rfl, questionEnd_ok hend⟩

/-- Questions are skipped until the section is done; each one moves on in the message. -/
def skipAllQuestions (p : Parser) : Except Error Parser :=
  match _h : skipQuestion p with
  | .ok _ p' => skipAllQuestions p'
  | .error .sectionDone p' => .ok p'
  | .error e _ => .error e
termination_by p.msg.length - p.off
decreasing_by
  have hmoves := skipQuestion_ok _h
  rw [hmoves.1]
  omega

/-! ### The sections of a message by their offsets -/

/-- The parser between two records of a section that has `n` more. -/
structure At (sec : Section) (n : Nat) (p : Parser) : Prop where
  inSection : p.sec = sec
  closed : p.resHeaderValid = false
  left : p.index + n = p.header.count sec

theorem At.rewind (h : At sec n p) : p.rewind = p := by
  rw [Parser.rewind, h.closed, if_neg (by simp)]

theorem At.checkAdvance_done (h : At sec 0 p) :
    checkAdvance sec p = .error .sectionDone { p with index := 0, sec := p.sec.next } := by
  rw [checkAdvance_eq, h.inSection, if_neg (by omega), if_neg (by omega),
    if_pos (by simpa using h.left)]
  simp [← h.closed]

theorem At.checkAdvance (h : At sec (n + 1) p) : checkAdvance sec p = .ok () p := by
  have hleft := h.left
  rw [checkAdvance_of_left (by rw [h.inSection]) (by omega)]
  simp [← h.closed]

theorem nested_ne {α : Type} {x : Except Error α} {s : String} :
    ∀ e, x.mapError (Error.nested s) = .error e → e ≠ Error.sectionDone := by
  rintro _ h rfl
  obtain ⟨e, -, he⟩ := mapError_eq_error.mp h
  cases he

theorem unpackResourceHeader_error :
    ∀ e, unpackResourceHeader msg off = .error e → e ≠ .sectionDone := by
  refine bind_errors nested_ne fun _ => bind_errors nested_ne fun _ => ?_
  refine bind_errors nested_ne fun _ => bind_errors nested_ne fun _ => ?_
  exact bind_errors nested_ne fun _ _ h => nomatch h

/-- The offset after `n` questions. -/
def questionsEnd (msg : Bytes) : Nat → Nat → Except Error Nat
  | 0, off => .ok off
  | n + 1, off => questionEnd msg off >>= questionsEnd msg n

theorem questionEnd_error : ∀ e, questionEnd msg off = .error e → e ≠ .sectionDone :=
  bind_errors nested_ne fun _ => bind_errors nested_ne fun _ => nested_ne

theorem At.skipQuestion_done (h : At .questions 0 p) :
    skipQuestion p = .error .sectionDone { p with index := 0, sec := .answers } := by
  have hrun : skipQuestion p = EStateM.run (Parser.checkAdvance .questions >>= _) p := rfl
  rw [hrun, EStateM.run_bind, EStateM.run, h.checkAdvance_done, h.inSection]
  rfl

theorem At.skipQuestion_eq (h : At .questions (n + 1) p) :
    skipQuestion p = (ofExcept (questionEnd p.msg p.off) >>= fun off =>
      set { p with off := off, index := p.index + 1 } : EStateM Error Parser Unit) p := by
  have hrun : skipQuestion p = EStateM.run (Parser.checkAdvance .questions >>= _) p := rfl
  rw [hrun, EStateM.run_bind, EStateM.run, h.checkAdvance]
  rfl

theorem skipAllQuestions_eq (h : At .questions n p) :
    skipAllQuestions p = (questionsEnd p.msg n p.off).map fun off =>
      { p with off := off, index := 0, sec := .answers } := by
  induction n generalizing p with
  | zero =>
    rw [skipAllQuestions, h.skipQuestion_done]
    rfl
  | succ n ih =>
    rw [skipAllQuestions, h.skipQuestion_eq, questionsEnd]
    cases hend : questionEnd p.msg p.off with
    | error e =>
      have he := questionEnd_error e hend
      cases e with
      | sectionDone => exact absurd rfl he
      | _ => rfl
    | ok off =>
      have hnext : At .questions n { p with off := off, index := p.index + 1 } :=
        ⟨h.inSection, h.closed, by have := h.left; simp only; omega⟩
      exact ih hnext

theorem At.answerHeader_done (h : At .answers 0 p) :
    answerHeader p = .error .sectionDone { p with index := 0, sec := p.sec.next } := by
  rw [answerHeader, resourceHeader_eq, h.rewind, h.checkAdvance_done]

theorem At.answerHeader_ok (h : At .answers (n + 1) p)
    (hunpack : unpackResourceHeader p.msg p.off = .ok (hdr, off)) :
    answerHeader p = .ok hdr (p.afterHeader hdr off) := by
  rw [answerHeader, resourceHeader_eq, h.rewind, h.checkAdvance]
  simp only [hunpack]

theorem At.answerHeader_error (h : At .answers (n + 1) p)
    (hunpack : unpackResourceHeader p.msg p.off = .error e) : answerHeader p = .error e p := by
  rw [answerHeader, resourceHeader_eq, h.rewind, h.checkAdvance]
  simp only [hunpack]

/-- The parser after the body of a record whose header it has read. -/
def afterBody (q : Parser) (hdr : ResourceHeader) (off : Nat) : Parser :=
  { q.afterHeader hdr off with
    off := off + hdr.length
    resHeaderValid := false
    index := q.index + 1 }

theorem At.afterBody (h : At sec (n + 1) p) : At sec n (p.afterBody hdr off) :=
  ⟨h.inSection, rfl, by have := h.left; simp only [Parser.afterBody, afterHeader]; omega⟩

theorem txtResource_ok {txt : List Bytes} (htype : hdr.type = typeTXT)
    (hunpack : unpackTXTResource p.msg off hdr.length = .ok txt) :
    txtResource (p.afterHeader hdr off) = .ok txt (p.afterBody hdr off) := by
  have hrun : txtResource (p.afterHeader hdr off) =
      (ite (true = false ∨ hdr.type ≠ typeTXT) _ _ : EStateM Error Parser _)
        (p.afterHeader hdr off) := rfl
  rw [hrun, if_neg (by simp [htype])]
  change (ofExcept (unpackTXTResource p.msg off hdr.length) >>= _ : EStateM Error Parser _) _ = _
  rw [hunpack]
  rfl

theorem txtResource_error (htype : hdr.type = typeTXT)
    (hunpack : unpackTXTResource p.msg off hdr.length = .error e) :
    txtResource (p.afterHeader hdr off) = .error e (p.afterHeader hdr off) := by
  have hrun : txtResource (p.afterHeader hdr off) =
      (ite (true = false ∨ hdr.type ≠ typeTXT) _ _ : EStateM Error Parser _)
        (p.afterHeader hdr off) := rfl
  rw [hrun, if_neg (by simp [htype])]
  change (ofExcept (unpackTXTResource p.msg off hdr.length) >>= _ : EStateM Error Parser _) _ = _
  rw [hunpack]
  rfl

end Parser

end Meshd.Framework.Dns

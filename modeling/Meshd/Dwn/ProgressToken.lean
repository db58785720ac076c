import Meshd.Framework.Decimal
import Meshd.Framework.Select

namespace Meshd.Dwn

open Meshd.Framework

/-- A cursor of an event log. Positions are decimal texts and are comparable only within one stream
and epoch. -/
structure ProgressToken where
  streamID : String := ""
  epoch : String := ""
  position : String := ""
  messageCID : String := ""
deriving DecidableEq

/-- The digits of a position without leading zeros. -/
def normalizedDecimalPosition (value : String) : Option (List Char) :=
  if value.toList = [] then none
  else if value.toList.all Char.isDigit then
    let trimmed := value.toList.dropWhile (· == '0')
    if trimmed = [] then some ['0'] else some trimmed
  else none

def compareDecimalPositions (candidate existing : String) : Ordering :=
  match normalizedDecimalPosition candidate, normalizedDecimalPosition existing with
  | none, _ => .lt
  | some _, none => .gt
  | some candidate, some existing =>
    if candidate.length < existing.length then .lt
    else if existing.length < candidate.length then .gt
    else if lexLess candidate existing then .lt
    else if lexLess existing candidate then .gt
    else .eq

def decimalPositionGreater (candidate existing : String) : Bool :=
  compareDecimalPositions candidate existing == .gt

def ProgressToken.valid (p : ProgressToken) : Bool :=
  decide (p.streamID ≠ "") && decide (p.epoch ≠ "") &&
    (normalizedDecimalPosition p.position).isSome

def shouldReplaceProgressToken (current : Option ProgressToken) (candidate : ProgressToken) :
    Bool :=
  if candidate.valid then
    match current with
    | none => true
    | some current =>
      if candidate.streamID ≠ current.streamID ∨ candidate.epoch ≠ current.epoch then false
      else decimalPositionGreater candidate.position current.position
  else false

/-- What is left of a run of digits: the single zero, or a number that does not begin with one. -/
structure Normalized (cs : List Char) : Prop where
  digits : ∀ c ∈ cs, c.isDigit = true
  head : cs = ['0'] ∨ ∃ c rest, cs = c :: rest ∧ c ≠ '0'

theorem normalized_dropZeros {cs : List Char} (h : ∀ c ∈ cs, c.isDigit = true)
    (hne : cs.dropWhile (· == '0') ≠ []) : Normalized (cs.dropWhile (· == '0')) := by
  refine ⟨fun c hc => h c ((List.dropWhile_suffix _).subset hc), .inr ?_⟩
  obtain ⟨c, rest, hcs⟩ := List.exists_cons_of_ne_nil hne
  refine ⟨c, rest, hcs, ?_⟩
  have hhead := List.head?_dropWhile_not (· == '0') cs
  rw [hcs] at hhead
  simpa using hhead

theorem normalizedDecimalPosition_decimal {value : String} (h : Decimal value.toList) :
    ∃ cs, normalizedDecimalPosition value = some cs ∧ Normalized cs ∧
      decimalValue cs = decimalValue value.toList := by
  have hall : value.toList.all Char.isDigit = true := List.all_eq_true.mpr h.2
  have hvalue := decimalValue_dropZeros value.toList
  simp only [normalizedDecimalPosition]
  rw [if_neg h.1, if_pos hall]
  by_cases hzero : value.toList.dropWhile (· == '0') = []
  · rw [if_pos hzero]
    rw [hzero] at hvalue
    exact ⟨_, rfl, ⟨by simp, .inl rfl⟩, hvalue⟩
  · rw [if_neg hzero]
    exact ⟨_, rfl, normalized_dropZeros h.2 hzero, hvalue⟩

theorem isSome_normalizedDecimalPosition {value : String} :
    (normalizedDecimalPosition value).isSome = true ↔ Decimal value.toList := by
  constructor
  · intro h
    refine ⟨?_, List.all_eq_true.mp ?_⟩
    · intro hnil
      simp [normalizedDecimalPosition, hnil] at h
    · by_contra hall
      simp [normalizedDecimalPosition, hall] at h
  · intro h
    obtain ⟨cs, hcs, -⟩ := normalizedDecimalPosition_decimal h
    rw [hcs]
    rfl

theorem Normalized.lt_of_length_lt {as bs : List Char} (ha : Normalized as) (hb : Normalized bs)
    (h : as.length < bs.length) : decimalValue as < decimalValue bs := by
  have hlt := decimalValue_lt ha.digits
  have hpos : 0 < as.length := by
    rcases ha.head with rfl | ⟨c, rest, rfl, -⟩
    · exact Nat.zero_lt_one
    · exact Nat.succ_pos _
  rcases hb.head with rfl | ⟨c, rest, rfl, hc⟩
  · rw [List.length_singleton] at h
    omega
  · have hle : 10 ^ rest.length ≤ decimalValue (c :: rest) :=
      le_decimalValue_cons (hb.digits c (by simp)) hc
    have hpow : 10 ^ as.length ≤ 10 ^ rest.length :=
      Nat.pow_le_pow_right (by omega) (by simp only [List.length_cons] at h; omega)
    omega

/-- Positions compare as the numbers they stand for. -/
theorem compareDecimalPositions_eq {candidate existing : String} (hc : Decimal candidate.toList)
    (he : Decimal existing.toList) :
    compareDecimalPositions candidate existing =
      compare (decimalValue candidate.toList) (decimalValue existing.toList) := by
  obtain ⟨as, has, hna, hva⟩ := normalizedDecimalPosition_decimal hc
  obtain ⟨bs, hbs, hnb, hvb⟩ := normalizedDecimalPosition_decimal he
  simp only [compareDecimalPositions, has, hbs, ← hva, ← hvb]
  rcases Nat.lt_trichotomy as.length bs.length with h | h | h
  · rw [if_pos h, Nat.compare_eq_lt.mpr (hna.lt_of_length_lt hnb h)]
  · rw [if_neg (by omega), if_neg (by omega)]
    have hlt := lexLess_iff h hna.digits hnb.digits
    have hgt := lexLess_iff h.symm hnb.digits hna.digits
    rcases Nat.lt_trichotomy (decimalValue as) (decimalValue bs) with hv | hv | hv
    · rw [if_pos (hlt.mpr hv), Nat.compare_eq_lt.mpr hv]
    · rw [if_neg (fun hl => by have := hlt.mp hl; omega),
        if_neg (fun hl => by have := hgt.mp hl; omega), Nat.compare_eq_eq.mpr hv]
    · rw [if_neg (fun hl => by have := hlt.mp hl; omega), if_pos (hgt.mpr hv),
        Nat.compare_eq_gt.mpr hv]
  · rw [if_neg (by omega), if_pos h, Nat.compare_eq_gt.mpr (hnb.lt_of_length_lt hna h)]

namespace ProgressToken

/-- The position as a number. -/
def number (p : ProgressToken) : Nat := decimalValue p.position.toList

/-- `p` comes before `q` in the log they are both cursors of. -/
structure Precedes (p q : ProgressToken) : Prop where
  streamID : p.streamID = q.streamID
  epoch : p.epoch = q.epoch
  number : p.number < q.number

theorem Precedes.trans {p q r : ProgressToken} (h : p.Precedes q) (h' : q.Precedes r) :
    p.Precedes r :=
  ⟨h.streamID.trans h'.streamID, h.epoch.trans h'.epoch, h.number.trans h'.number⟩

theorem valid_iff {p : ProgressToken} :
    p.valid = true ↔ p.streamID ≠ "" ∧ p.epoch ≠ "" ∧ Decimal p.position.toList := by
  simp only [valid, Bool.and_eq_true, decide_eq_true_eq, isSome_normalizedDecimalPosition, and_assoc]

theorem decimal {p : ProgressToken} (h : p.valid = true) : Decimal p.position.toList :=
  (valid_iff.mp h).2.2

end ProgressToken

theorem shouldReplaceProgressToken_some {current candidate : ProgressToken}
    (hcurrent : current.valid = true) (hcandidate : candidate.valid = true) :
    shouldReplaceProgressToken (some current) candidate = true ↔ current.Precedes candidate := by
  simp only [shouldReplaceProgressToken, if_pos hcandidate, decimalPositionGreater,
    compareDecimalPositions_eq (ProgressToken.decimal hcandidate) (ProgressToken.decimal hcurrent)]
  split_ifs with hother
  · refine iff_of_false not_false fun h => ?_
    exact hother.elim (fun hs => hs h.streamID.symm) (fun he => he h.epoch.symm)
  · obtain ⟨hs, he⟩ := not_or.mp hother
    rw [beq_iff_eq, Nat.compare_eq_gt]
    exact ⟨fun h => ⟨(not_not.mp hs).symm, (not_not.mp he).symm, h⟩, fun h => h.number⟩

namespace ProgressToken

/-- A valid token of one stream and epoch. -/
structure InLog (streamID epoch : String) (p : ProgressToken) : Prop where
  valid : p.valid = true
  streamID : p.streamID = streamID
  epoch : p.epoch = epoch

variable {streamID epoch : String} {p q : ProgressToken}

/-- Within one stream and epoch, the greater number replaces. -/
theorem InLog.shouldReplace_iff (hp : p.InLog streamID epoch) (hq : q.InLog streamID epoch) :
    shouldReplaceProgressToken (some p) q = true ↔ p.number < q.number := by
  rw [shouldReplaceProgressToken_some hp.valid hq.valid]
  exact ⟨Precedes.number, fun h => ⟨hp.streamID.trans hq.streamID.symm,
    hp.epoch.trans hq.epoch.symm, h⟩⟩

theorem InLog.keep_eq {current : Option ProgressToken}
    (hcurrent : ∀ p, current = some p → p.InLog streamID epoch) (hq : q.InLog streamID epoch) :
    (if shouldReplaceProgressToken current q then some q else current) =
      keepGreater number current q := by
  cases current with
  | none => rw [shouldReplaceProgressToken, if_pos hq.valid, if_pos rfl, keepGreater]
  | some p =>
    rw [keepGreater]
    exact if_congr ((hcurrent p rfl).shouldReplace_iff hq) rfl rfl

end ProgressToken

end Meshd.Dwn

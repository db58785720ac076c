import Mathlib.Data.List.Infix

namespace Meshd.Framework

/-! Where a word stands in a text. -/

variable {α : Type} {m : α} {word a b d x y : List α}

/-- A word whose first letter does not come again in it does not overlap a copy of itself. -/
theorem nil_or_behind_of_shift (hm : m ∉ word) (h : m :: word ++ x = d ++ (m :: word ++ y)) :
    d = [] ∨ ∃ e, x = e ++ (m :: word ++ y) := by
  obtain ⟨e, rfl, hrest⟩ | ⟨e, hword, hrest⟩ := List.append_eq_append_iff.mp h
  · exact .inr ⟨e, hrest⟩
  · cases d with
    | nil => exact .inl rfl
    | cons c d =>
      obtain ⟨rfl, rfl⟩ := List.cons.inj hword
      cases e with
      | nil => exact .inr ⟨[], hrest.symm⟩
      | cons c' e =>
        -- the second copy would begin inside the first
        obtain ⟨rfl, -⟩ := List.cons.inj hrest
        simp at hm

/-- Where such a word is read at two places of one text, there is a whole copy behind the first. -/
theorem append_word_eq (hm : m ∉ word) (h : a ++ (m :: word ++ x) = b ++ (m :: word ++ y)) :
    a = b ∧ x = y ∨ (∃ d, x = d ++ (m :: word ++ y)) ∨ ∃ d, y = d ++ (m :: word ++ x) := by
  obtain ⟨d, rfl, hd⟩ | ⟨d, rfl, hd⟩ := List.append_eq_append_iff.mp h
  · obtain rfl | hx := nil_or_behind_of_shift hm hd
    · exact .inl ⟨(List.append_nil a).symm, List.append_cancel_left hd⟩
    · exact .inr (.inl hx)
  · obtain rfl | hy := nil_or_behind_of_shift hm hd
    · exact .inl ⟨List.append_nil b, (List.append_cancel_left hd).symm⟩
    · exact .inr (.inr hy)

/-! ### The last occurrence -/

section Last
variable [DecidableEq α]

/-- The last index at which the word occurs. -/
def lastIndexOf (word : List α) : List α → Option Nat
  | [] => if word = [] then some 0 else none
  | c :: cs =>
    match lastIndexOf word cs with
    | some i => some (i + 1)
    | none => if word <+: c :: cs then some 0 else none

variable {text front back : List α}

/-- The word stands behind `front`, and nowhere further on. -/
structure LastAt (word text front back : List α) : Prop where
  split : text = front ++ (word ++ back)
  last : ∀ front' back', text = front' ++ (word ++ back') → front'.length ≤ front.length

theorem lastIndexOf_eq_none (hne : word ≠ []) (h : lastIndexOf word text = none) :
    ∀ front back, text ≠ front ++ (word ++ back) := by
  induction text with
  | nil => simp [hne]
  | cons c cs ih =>
    rw [lastIndexOf] at h
    cases hcs : lastIndexOf word cs with
    | some i => simp [hcs] at h
    | none =>
      rw [hcs] at h
      split_ifs at h with hpre
      intro front back heq
      cases front with
      | nil => exact hpre ⟨back, heq.symm⟩
      | cons d front => exact ih hcs front back (List.cons.inj heq).2

theorem lastAt_of_lastIndexOf (hne : word ≠ []) {i : Nat} (h : lastIndexOf word text = some i) :
    ∃ front back, LastAt word text front back ∧ front.length = i := by
  induction text generalizing i with
  | nil => simp [lastIndexOf, hne] at h
  | cons c cs ih =>
    rw [lastIndexOf] at h
    cases hcs : lastIndexOf word cs with
    | some j =>
      rw [hcs] at h
      obtain ⟨front, back, hlast, rfl⟩ := ih hcs
      refine ⟨c :: front, back, ⟨by rw [hlast.split]; rfl, ?_⟩, Option.some.inj h⟩
      intro front' back' heq
      cases front' with
      | nil => exact Nat.zero_le _
      | cons d front' =>
        exact Nat.succ_le_succ (hlast.last front' back' (List.cons.inj heq).2)
    | none =>
      rw [hcs] at h
      split_ifs at h with hpre
      obtain ⟨back, hback⟩ := hpre
      refine ⟨[], back, ⟨hback.symm, ?_⟩, Option.some.inj h⟩
      intro front' back' heq
      cases front' with
      | nil => exact le_rfl
      | cons d front' => exact absurd (List.cons.inj heq).2 (lastIndexOf_eq_none hne hcs front' back')

theorem LastAt.lastIndexOf_eq (hne : word ≠ []) (h : LastAt word text front back) :
    lastIndexOf word text = some front.length := by
  cases hi : lastIndexOf word text with
  | none => exact absurd h.split (lastIndexOf_eq_none hne hi front back)
  | some i =>
    obtain ⟨front', back', h', rfl⟩ := lastAt_of_lastIndexOf hne hi
    rw [le_antisymm (h.last front' back' h'.split) (h'.last front back h.split)]

end Last

/-! ### The first word -/

section Words
variable {p : α → Bool}

theorem head?_splitOnP (l : List α) : (l.splitOnP p).head? = some (l.takeWhile (!p ·)) := by
  induction l with
  | nil => rfl
  | cons c l ih =>
    rw [List.splitOnP_cons_eq_if_modifyHead]
    cases hc : p c with
    | true => simp [hc]
    | false =>
      obtain ⟨rest, hrest⟩ := List.head?_eq_some_iff.mp ih
      simp [hc, hrest]

/-- The first part between separators that is not empty. -/
theorem head?_filter_splitOnP (l : List α) :
    ((l.splitOnP p).filter (· ≠ [])).head? =
      if (l.dropWhile p).takeWhile (!p ·) = [] then none
      else some ((l.dropWhile p).takeWhile (!p ·)) := by
  induction l with
  | nil => rfl
  | cons c l ih =>
    cases hc : p c with
    | true =>
      rw [List.splitOnP_cons_eq_if_modifyHead, hc, List.dropWhile_cons_of_pos hc]
      simpa using ih
    | false =>
      obtain ⟨rest, hrest⟩ := List.head?_eq_some_iff.mp (head?_splitOnP (p := p) (c :: l))
      rw [List.dropWhile_cons_of_neg (by simp [hc]), hrest]
      simp [hc]

/-- Separators at the end are in no word. -/
theorem takeWhile_append_of_all {a b : List α} (h : ∀ c ∈ b, p c = true) :
    (a ++ b).takeWhile (!p ·) = a.takeWhile (!p ·) := by
  induction a with
  | nil =>
    cases b with
    | nil => rfl
    | cons c b => simp [h c List.mem_cons_self]
  | cons c a ih =>
    cases hc : p c with
    | true => simp [hc]
    | false => simp [hc, ih]

end Words

end Meshd.Framework

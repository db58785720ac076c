import Mathlib.Data.List.Basic

namespace Meshd.Framework

/-! Texts put together from lines, and what they say about lines that may themselves hold the symbol
that ends a line. -/

variable {α : Type} [BEq α] [LawfulBEq α] {x : α}

/-- The lines, each with its end. -/
def unlines (x : α) (lines : List (List α)) : List α := lines.flatMap (· ++ [x])

theorem splitOn_unlines (lines : List (List α)) :
    (unlines x lines).splitOn x = lines.flatMap (List.splitOn x) ++ [[]] := by
  induction lines with
  | nil => simp [unlines]
  | cons line rest ih =>
    have hsplit : unlines x (line :: rest) = line ++ x :: unlines x rest := by simp [unlines]
    rw [hsplit, List.splitOn_append_cons_self, ih, List.flatMap_cons, List.append_assoc]

/-- The first end that is found is the same. -/
theorem append_cons_inj {front front' rest rest' : List α} (hfront : x ∉ front)
    (hfront' : x ∉ front') (h : front ++ x :: rest = front' ++ x :: rest') :
    front = front' ∧ rest = rest' := by
  have hsplit := congrArg (List.splitOn x) h
  rw [List.splitOn_append_cons_self_of_not_mem hfront,
    List.splitOn_append_cons_self_of_not_mem hfront'] at hsplit
  obtain rfl := (List.cons.inj hsplit).1
  exact ⟨rfl, (List.cons.inj (List.append_cancel_left h)).2⟩

theorem flatMap_splitOn_of_not_mem {lines : List (List α)} (h : ∀ line ∈ lines, x ∉ line) :
    lines.flatMap (List.splitOn x) = lines := by
  induction lines with
  | nil => rfl
  | cons line rest ih =>
    rw [List.flatMap_cons, List.splitOn_eq_singleton (h line List.mem_cons_self),
      ih fun l hl => h l (List.mem_cons_of_mem _ hl)]
    rfl

/-- Lines without ends in them are the pieces of any other lines that give the same text. -/
theorem eq_pieces_of_unlines_eq {lines lines' : List (List α)} (hfree : ∀ line ∈ lines, x ∉ line)
    (h : unlines x lines = unlines x lines') : lines = lines'.flatMap (List.splitOn x) := by
  have hsplit := congrArg (List.splitOn x) h
  rw [splitOn_unlines, splitOn_unlines, flatMap_splitOn_of_not_mem hfree] at hsplit
  exact List.append_cancel_right hsplit

omit [LawfulBEq α] in
theorem length_le_pieces (lines : List (List α)) :
    lines.length ≤ (lines.flatMap (List.splitOn x)).length := by
  induction lines with
  | nil => exact Nat.le_refl 0
  | cons line rest ih =>
    have hpos : 0 < (line.splitOn x).length := List.length_pos_iff.mpr (by simp)
    rw [List.flatMap_cons, List.length_append, List.length_cons]
    omega

/-- As many pieces as lines: no line is cut. -/
theorem pieces_eq_of_length {lines : List (List α)}
    (h : (lines.flatMap (List.splitOn x)).length = lines.length) :
    lines.flatMap (List.splitOn x) = lines := by
  induction lines with
  | nil => rfl
  | cons line rest ih =>
    have hpos : 0 < (line.splitOn x).length := List.length_pos_iff.mpr (by simp)
    have hrest := length_le_pieces (x := x) rest
    rw [List.flatMap_cons, List.length_append, List.length_cons] at h
    obtain ⟨piece, hpiece⟩ := List.length_eq_one_iff.mp (by omega : (line.splitOn x).length = 1)
    have hline : line = piece := by
      have hjoin : [x].intercalate (line.splitOn x) = line := List.intercalate_splitOn x
      rw [hpiece] at hjoin
      simpa using hjoin.symm
    rw [List.flatMap_cons, hpiece, ih (by omega), hline]
    rfl

/-- A first line that is not cut is the first piece. -/
theorem head_eq_of_unlines_eq {line line' : List α} {rest rest' : List (List α)}
    (hfree : ∀ l ∈ line :: rest, x ∉ l) (hfree' : x ∉ line')
    (h : unlines x (line :: rest) = unlines x (line' :: rest')) : line = line' := by
  have hpieces := eq_pieces_of_unlines_eq hfree h
  rw [List.flatMap_cons, List.splitOn_eq_singleton hfree'] at hpieces
  exact (List.cons.inj hpieces).1

/-- As many lines on both sides: they are the same. -/
theorem eq_of_unlines_eq {lines lines' : List (List α)} (hfree : ∀ line ∈ lines, x ∉ line)
    (hlen : lines.length = lines'.length) (h : unlines x lines = unlines x lines') :
    lines = lines' := by
  have hpieces := eq_pieces_of_unlines_eq hfree h
  rw [hpieces]
  apply pieces_eq_of_length
  rw [← hpieces, hlen]

/-- Lines without ends in them are no fewer than those that give the same text. -/
theorem length_le_of_unlines_eq {lines lines' : List (List α)} (hfree : ∀ line ∈ lines, x ∉ line)
    (h : unlines x lines = unlines x lines') : lines'.length ≤ lines.length := by
  have hpieces := length_le_pieces (x := x) lines'
  rwa [← eq_pieces_of_unlines_eq hfree h] at hpieces

/-- One line more than on the other side: where it stands, the other side has the beginning of the
line before or after it, or an end inside the line before it. -/
theorem extra_line_cases {before before' after after' : List (List α)}
    {line last last' next' : List α}
    (hfree : ∀ l ∈ before ++ last :: line :: after, x ∉ l)
    (hbefore : before.length = before'.length) (hafter : after.length = after'.length + 1)
    (h : unlines x (before ++ last :: line :: after) =
      unlines x (before' ++ last' :: next' :: after')) :
    (∃ rest, last'.splitOn x = line :: rest) ∨ (∃ rest, next'.splitOn x = line :: rest) ∨
      ∃ first, last'.splitOn x = [first, line] := by
  have hpieces := eq_pieces_of_unlines_eq hfree h
  have hb := length_le_pieces (x := x) before'
  have ha := length_le_pieces (x := x) after'
  rw [List.flatMap_append, List.flatMap_cons, List.flatMap_cons] at hpieces
  obtain ⟨l, ls, hl⟩ := List.exists_cons_of_ne_nil (List.splitOn_ne_nil x last')
  obtain ⟨m, ms, hm⟩ := List.exists_cons_of_ne_nil (List.splitOn_ne_nil x next')
  generalize before'.flatMap (List.splitOn x) = bs at hpieces hb
  generalize after'.flatMap (List.splitOn x) = as at hpieces ha
  rw [hl, hm] at hpieces ⊢
  have hlen := congrArg List.length hpieces
  simp only [List.length_append, List.length_cons] at hlen
  by_cases hbs : bs.length = before.length
  · obtain ⟨-, hrest⟩ := List.append_inj hpieces hbs.symm
    simp only [List.cons_append, List.cons.injEq] at hrest
    cases ls with
    | nil =>
      simp only [List.nil_append, List.cons.injEq] at hrest
      exact .inr (.inl ⟨ms, by rw [hrest.2.1]⟩)
    | cons l₂ ls =>
      simp only [List.cons_append, List.cons.injEq] at hrest
      have hls : ls = [] := by
        apply List.eq_nil_of_length_eq_zero
        simp only [List.length_cons] at hlen
        omega
      exact .inr (.inr ⟨l, by rw [hls, hrest.2.1]⟩)
  · left
    have hshift : (before ++ [last]) ++ (line :: after) = bs ++ ((l :: ls) ++ ((m :: ms) ++ as)) := by
      simpa using hpieces
    have hfront : (before ++ [last]).length = bs.length := by
      rw [List.length_append, List.length_singleton]
      omega
    obtain ⟨-, hrest⟩ := List.append_inj hshift hfront
    simp only [List.cons_append, List.cons.injEq] at hrest
    exact ⟨ls, by rw [hrest.1]⟩

/-- What stands before the first end goes to the first piece. -/
theorem splitOn_append {label : List α} (h : x ∉ label) (value : List α) :
    ∃ first rest, value.splitOn x = first :: rest ∧
      (label ++ value).splitOn x = (label ++ first) :: rest := by
  obtain ⟨first, rest, hvalue⟩ := List.exists_cons_of_ne_nil (List.splitOn_ne_nil x value)
  refine ⟨first, rest, hvalue, ?_⟩
  induction label with
  | nil => exact hvalue
  | cons y label ih =>
    have hy : (y == x) = false := by
      rw [beq_eq_false_iff_ne]
      rintro rfl
      exact h List.mem_cons_self
    rw [List.cons_append, List.splitOn_cons_eq_if_modifyHead, hy,
      ih fun hmem => h (List.mem_cons_of_mem _ hmem)]
    rfl

omit [BEq α] [LawfulBEq α] in
/-- A joined text has the symbols of its parts and the one between them. -/
theorem mem_intercalate {texts : List (List α)} {y : α} (h : y ∈ [x].intercalate texts) :
    y = x ∨ ∃ text ∈ texts, y ∈ text := by
  induction texts with
  | nil => simp at h
  | cons first rest ih =>
    cases rest with
    | nil => exact .inr ⟨first, by simp, by simpa using h⟩
    | cons second rest =>
      rw [List.intercalate_cons_cons, List.append_assoc, List.mem_append, List.mem_append,
        List.mem_singleton] at h
      obtain h | h | h := h
      · exact .inr ⟨first, by simp, h⟩
      · exact .inl h
      · obtain hx | ⟨text, htext, hy⟩ := ih h
        · exact .inl hx
        · exact .inr ⟨text, List.mem_cons_of_mem _ htext, hy⟩

/-- No piece holds the symbol at which the text is cut. -/
theorem not_mem_of_mem_splitOn {text piece : List α} (hp : piece ∈ text.splitOn x) : x ∉ piece := by
  induction hn : text.length using Nat.strongRecOn generalizing text with
  | ind n ih =>
    subst hn
    by_cases hx : x ∈ text
    · obtain ⟨front, rest, rfl, hfront⟩ := List.eq_append_cons_of_mem hx
      rw [List.splitOn_append_cons_self_of_not_mem hfront] at hp
      obtain rfl | hp := List.mem_cons.mp hp
      · exact hfront
      · exact ih rest.length (by simp; omega) hp rfl
    · rw [List.splitOn_eq_singleton hx, List.mem_singleton] at hp
      rwa [hp]

theorem mem_of_mem_splitOn {text piece : List α} (hp : piece ∈ text.splitOn x) {y : α}
    (hy : y ∈ piece) : y ∈ text := by
  have hjoin : [x].intercalate (text.splitOn x) = text := List.intercalate_splitOn x
  rw [← hjoin]
  generalize text.splitOn x = pieces at hp
  induction pieces with
  | nil => cases hp
  | cons first rest ih =>
    cases rest with
    | nil =>
      obtain rfl := List.mem_singleton.mp hp
      simpa using hy
    | cons second rest =>
      rw [List.intercalate_cons_cons]
      obtain rfl | hp := List.mem_cons.mp hp
      · simp [hy]
      · simp [ih hp]

end Meshd.Framework

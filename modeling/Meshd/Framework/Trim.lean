import Mathlib.Data.List.Infix

namespace Meshd.Framework

/-! Trimming: a text without the words of a list at its ends. -/

variable {α : Type} {words : List (List α)} {text : List α}

/-- The text has none of the words at its ends. -/
structure Trimmed (words : List (List α)) (text : List α) : Prop where
  leading : ∀ word ∈ words, ¬ word <+: text
  trailing : ∀ word ∈ words, ¬ word <:+ text

theorem prefix_of_prefix_append_cons {word front rest : List α} {x : α} (hx : x ∉ word)
    (h : word <+: front ++ x :: rest) : word <+: front := by
  obtain hw | ⟨more, rfl⟩ := List.prefix_or_prefix_of_prefix h (List.prefix_append front _)
  · exact hw
  · cases more with
    | nil => simp
    | cons y more =>
      have hy : y = x := by
        rw [List.prefix_append_right_inj, List.cons_prefix_cons] at h
        exact h.1
      simp [hy] at hx

theorem suffix_of_suffix_append_cons {word front rest : List α} {x : α} (hx : x ∉ word)
    (h : word <:+ front ++ x :: rest) : word <:+ rest := by
  have hrev : word.reverse <+: rest.reverse ++ x :: front.reverse := by
    simpa using List.reverse_prefix.mpr h
  exact List.reverse_prefix.mp (prefix_of_prefix_append_cons (by simpa using hx) hrev)

/-- A word at the end of a joined text is at the end of one of the parts. -/
theorem exists_suffix_of_suffix_intercalate {word : List α} {x : α} (hx : x ∉ word)
    {texts : List (List α)} (hcons : texts ≠ []) (h : word <:+ [x].intercalate texts) :
    ∃ t ∈ texts, word <:+ t := by
  induction texts with
  | nil => exact absurd rfl hcons
  | cons t texts ih =>
    cases texts with
    | nil => exact ⟨t, by simp, by simpa using h⟩
    | cons u rest =>
      rw [List.intercalate_cons_cons, List.append_assoc] at h
      obtain ⟨v, hv, hend⟩ := ih (by simp) (suffix_of_suffix_append_cons hx h)
      exact ⟨v, List.mem_cons_of_mem _ hv, hend⟩

/-- Trimmed texts stay so when they are joined by a symbol that is in none of the words. -/
theorem trimmed_intercalate {x : α} (hx : ∀ word ∈ words, x ∉ word) {texts : List (List α)}
    (htexts : ∀ t ∈ texts, Trimmed words t) (hcons : texts ≠ []) :
    Trimmed words ([x].intercalate texts) where
  leading word hword hstart := by
    obtain ⟨t, rest, rfl⟩ := List.exists_cons_of_ne_nil hcons
    apply (htexts t List.mem_cons_self).leading word hword
    cases rest with
    | nil => simpa using hstart
    | cons u rest =>
      rw [List.intercalate_cons_cons, List.append_assoc] at hstart
      exact prefix_of_prefix_append_cons (hx word hword) hstart
  trailing word hword hend := by
    obtain ⟨t, ht, hend⟩ := exists_suffix_of_suffix_intercalate (hx word hword) hcons hend
    exact (htexts t ht).trailing word hword hend

variable [DecidableEq α]

/-- The text without the words at its beginning. The bound counts the removals. -/
def dropLeading (words : List (List α)) : Nat → List α → List α
  | 0, text => text
  | bound + 1, text =>
    match words.find? (· <+: text) with
    | none => text
    | some word => dropLeading words bound (text.drop word.length)

/-- The same at the end. -/
def dropTrailing (words : List (List α)) (bound : Nat) (text : List α) : List α :=
  (dropLeading (words.map List.reverse) bound text.reverse).reverse

def trimWords (words : List (List α)) (text : List α) : List α :=
  dropTrailing words text.length (dropLeading words text.length text)

theorem dropLeading_suffix (words : List (List α)) (bound : Nat) (text : List α) :
    dropLeading words bound text <:+ text := by
  induction bound generalizing text with
  | zero => exact List.suffix_rfl
  | succ bound ih =>
    rw [dropLeading]
    split
    · exact List.suffix_rfl
    · exact (ih _).trans (List.drop_suffix _ text)

theorem dropLeading_of_none (h : ∀ word ∈ words, ¬ word <+: text) (bound : Nat) :
    dropLeading words bound text = text := by
  cases bound with
  | zero => rfl
  | succ bound =>
    have hnone : words.find? (fun word => decide (word <+: text)) = none := by
      simpa using h
    rw [dropLeading, hnone]

/-- With enough removals none of the words is left. -/
theorem dropLeading_clean (hne : [] ∉ words) {bound : Nat} (hb : text.length ≤ bound) :
    ∀ word ∈ words, ¬ word <+: dropLeading words bound text := by
  induction bound generalizing text with
  | zero =>
    obtain rfl : text = [] := List.eq_nil_of_length_eq_zero (by omega)
    intro word hword hstart
    rw [dropLeading, List.prefix_nil] at hstart
    exact hne (hstart ▸ hword)
  | succ bound ih =>
    rw [dropLeading]
    split
    · next hnone => simpa using hnone
    · next word hsome =>
      apply ih
      have hmem : word ∈ words := List.mem_of_find?_eq_some hsome
      have hpos : 0 < word.length := List.length_pos_iff.mpr fun he => hne (he ▸ hmem)
      rw [List.length_drop]
      omega

theorem dropTrailing_isPrefix (words : List (List α)) (bound : Nat) (text : List α) :
    dropTrailing words bound text <+: text := by
  rw [dropTrailing, ← List.reverse_suffix, List.reverse_reverse]
  exact dropLeading_suffix _ _ _

theorem dropTrailing_of_none (h : ∀ word ∈ words, ¬ word <:+ text) (bound : Nat) :
    dropTrailing words bound text = text := by
  rw [dropTrailing, dropLeading_of_none, List.reverse_reverse]
  intro word hword hstart
  obtain ⟨w, hw, rfl⟩ := List.mem_map.mp hword
  exact h w hw (List.reverse_prefix.mp hstart)

theorem dropTrailing_clean (hne : [] ∉ words) {bound : Nat} (hb : text.length ≤ bound) :
    ∀ word ∈ words, ¬ word <:+ dropTrailing words bound text := by
  intro word hword hend
  have hne' : [] ∉ words.map List.reverse := by simpa using hne
  have hb' : text.reverse.length ≤ bound := by rwa [List.length_reverse]
  have hclean := dropLeading_clean hne' hb' word.reverse (List.mem_map_of_mem hword)
  rw [dropTrailing, ← List.reverse_prefix, List.reverse_reverse] at hend
  exact hclean hend

/-- Trimming takes nothing out of the middle. -/
theorem trimWords_isInfix (words : List (List α)) (text : List α) : trimWords words text <:+: text :=
  (dropTrailing_isPrefix _ _ _).isInfix.trans (dropLeading_suffix _ _ _).isInfix

theorem trimWords_of_trimmed (h : Trimmed words text) : trimWords words text = text := by
  rw [trimWords, dropLeading_of_none h.leading, dropTrailing_of_none h.trailing]

theorem trimmed_trimWords (hne : [] ∉ words) (text : List α) :
    Trimmed words (trimWords words text) where
  leading word hword hstart :=
    dropLeading_clean hne (Nat.le_refl _) word hword
      (hstart.trans (dropTrailing_isPrefix words text.length _))
  trailing :=
    dropTrailing_clean hne (dropLeading_suffix words text.length text).length_le

end Meshd.Framework

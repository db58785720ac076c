import Mathlib.Data.List.Sort

namespace Meshd.Framework

/-! Choosing one of a list: an exact candidate where there is one, else the first. -/

variable {α β γ : Type}

/-- The first exact candidate, or else the first. -/
def preferred (exact : γ → Bool) (candidates : List γ) : Option γ :=
  (candidates.find? exact).or candidates.head?

theorem preferred_eq_none {exact : γ → Bool} {candidates : List γ} :
    preferred exact candidates = none ↔ candidates = [] := by
  cases candidates with
  | nil => simp [preferred]
  | cons c cs => simp [preferred]

theorem mem_of_preferred {exact : γ → Bool} {candidates : List γ} {c : γ}
    (h : preferred exact candidates = some c) : c ∈ candidates := by
  rw [preferred, Option.or_eq_some_iff] at h
  rcases h with h | ⟨-, h⟩
  · exact List.mem_of_find?_eq_some h
  · exact List.mem_of_mem_head? h

theorem exact_of_preferred {exact : γ → Bool} {candidates : List γ} {c d : γ}
    (h : preferred exact candidates = some c) (hd : d ∈ candidates) (hexact : exact d = true) :
    exact c = true := by
  rw [preferred, Option.or_eq_some_iff] at h
  rcases h with h | ⟨hnone, -⟩
  · exact List.find?_some h
  · exact absurd hexact (List.find?_eq_none.mp hnone d hd)

/-! ### The first of a sorted list -/

section Sorted
variable (r : α → α → Prop) [DecidableRel r]

/-- What a sort puts first is below all others. -/
theorem of_head?_insertionSort [Std.Total r] [IsTrans α r] {l : List α} {a : α}
    (h : (l.insertionSort r).head? = some a) : a ∈ l ∧ ∀ b ∈ l, r a b := by
  obtain ⟨rest, hsorted⟩ : ∃ rest, l.insertionSort r = a :: rest := by
    cases hl : l.insertionSort r with
    | nil => simp [hl] at h
    | cons b rest =>
      rw [hl] at h
      exact ⟨rest, by rw [Option.some.inj h]⟩
  have hpairs := List.pairwise_insertionSort r l
  rw [hsorted, List.pairwise_cons] at hpairs
  have hmem : ∀ b, b ∈ l ↔ b = a ∨ b ∈ rest := by
    intro b
    rw [← List.mem_insertionSort r, hsorted, List.mem_cons]
  refine ⟨(hmem a).mpr (.inl rfl), fun b hb => ?_⟩
  rcases (hmem b).mp hb with rfl | hb
  · exact (Std.Total.total (r := r) b b).elim id id
  · exact hpairs.1 b hb

/-- A stable sort keeps a least element first. -/
theorem head?_insertionSort_cons {l : List α} {a : α} (h : ∀ b ∈ l, r a b) :
    ((a :: l).insertionSort r).head? = some a := by
  rw [List.insertionSort_cons]
  cases hl : l.insertionSort r with
  | nil => rfl
  | cons b rest =>
    have hb : b ∈ l := (List.mem_insertionSort r).mp (hl ▸ List.mem_cons_self)
    rw [List.orderedInsert_cons_of_le r rest (h b hb), List.head?_cons]

/-- What comes first in some order of the entries: the elements below all others. -/
theorem exists_perm_head?_insertionSort [Std.Total r] [IsTrans α r] (read : γ → Option α)
    {entries : List γ} {a : α} :
    (∃ entries' : List γ, entries'.Perm entries ∧
      ((entries'.filterMap read).insertionSort r).head? = some a) ↔
      a ∈ entries.filterMap read ∧ ∀ b ∈ entries.filterMap read, r a b := by
  constructor
  · rintro ⟨entries', hperm, hhead⟩
    obtain ⟨hmem, hle⟩ := of_head?_insertionSort r hhead
    have hrecords := hperm.filterMap read
    exact ⟨hrecords.mem_iff.mp hmem, fun b hb => hle b (hrecords.mem_iff.mpr hb)⟩
  · rintro ⟨hmem, hle⟩
    obtain ⟨entry, hentry, hread⟩ := List.mem_filterMap.mp hmem
    obtain ⟨before, after, rfl⟩ := List.append_of_mem hentry
    refine ⟨entry :: (before ++ after), List.perm_middle.symm, ?_⟩
    rw [List.filterMap_cons_some hread]
    refine head?_insertionSort_cons r fun b hb => hle b ?_
    rw [List.filterMap_append, List.mem_append] at hb
    rw [List.filterMap_append, List.filterMap_cons_some hread, List.mem_append, List.mem_cons]
    exact hb.imp_right .inr

end Sorted

/-! ### The first of the greatest -/

section Greatest
variable [LinearOrder β] (measure : α → β)

/-- No element of the list is greater. -/
def isGreatest (l : List α) (a : α) : Bool := l.all fun b => decide (measure b ≤ measure a)

def firstGreatest (l : List α) : Option α := l.find? (isGreatest measure l)

/-- One step of a loop that keeps what it has until something greater comes. -/
def keepGreater : Option α → α → Option α
  | none, b => some b
  | some a, b => if measure a < measure b then some b else some a

variable {measure}

theorem isGreatest_cons {l : List α} {a b : α} :
    isGreatest measure (b :: l) a = true ↔ measure b ≤ measure a ∧ isGreatest measure l a = true := by
  simp [isGreatest]

/-- An element that another one of the list reaches can be left out. -/
theorem isGreatest_cons_of_le {l : List α} {a b c : α} (hc : c ∈ l) (hle : measure b ≤ measure c) :
    isGreatest measure (b :: l) a = isGreatest measure l a := by
  rw [Bool.eq_iff_iff, isGreatest_cons]
  refine ⟨And.right, fun h => ⟨?_, h⟩⟩
  have hca : measure c ≤ measure a := of_decide_eq_true (List.all_eq_true.mp h c hc)
  exact hle.trans hca

theorem foldl_keepGreater_some (l : List α) (a : α) :
    l.foldl (keepGreater measure) (some a) = firstGreatest measure (a :: l) := by
  induction l generalizing a with
  | nil => simp [firstGreatest, isGreatest]
  | cons b l ih =>
    rw [List.foldl_cons, keepGreater]
    by_cases hlt : measure a < measure b
    · -- `a` is not among the greatest, and asks nothing of the others that `b` does not
      have ha : isGreatest measure (a :: b :: l) a = false := by
        simp [isGreatest, hlt]
      have hsame : isGreatest measure (a :: b :: l) = isGreatest measure (b :: l) :=
        funext fun _ => isGreatest_cons_of_le List.mem_cons_self hlt.le
      have hskip : firstGreatest measure (a :: b :: l) = (b :: l).find? _ :=
        List.find?_cons_of_neg (by simp [ha])
      rw [if_pos hlt, ih, hskip, hsame, firstGreatest]
    · have hle : measure b ≤ measure a := not_lt.mp hlt
      have hsame : ∀ c, isGreatest measure (a :: b :: l) c = isGreatest measure (a :: l) c := by
        intro c
        rw [Bool.eq_iff_iff, isGreatest_cons, isGreatest_cons, isGreatest_cons]
        exact ⟨fun h => ⟨h.1, h.2.2⟩, fun h => ⟨h.1, hle.trans h.1, h.2⟩⟩
      rw [if_neg hlt, ih, firstGreatest, firstGreatest, funext hsame]
      cases ha : isGreatest measure (a :: l) a with
      | true => rw [List.find?_cons_of_pos ha, List.find?_cons_of_pos ha]
      | false =>
        -- what is greater than `a` is greater than `b`
        have hb : isGreatest measure (a :: l) b = false := by
          rw [Bool.eq_false_iff] at ha ⊢
          refine fun h => ha (isGreatest_cons.mpr ⟨le_rfl, ?_⟩)
          refine List.all_eq_true.mpr fun c hc => decide_eq_true ?_
          exact (of_decide_eq_true (List.all_eq_true.mp (isGreatest_cons.mp h).2 c hc)).trans hle
        rw [List.find?_cons_of_neg (by simp [ha]), List.find?_cons_of_neg (by simp [ha]),
          List.find?_cons_of_neg (by simp [hb])]

theorem foldl_keepGreater (l : List α) :
    l.foldl (keepGreater measure) none = firstGreatest measure l := by
  cases l with
  | nil => rfl
  | cons a l => exact foldl_keepGreater_some l a

end Greatest

/-! ### Loops that prefer an exact candidate -/

/-- A loop that returns at an exact candidate and keeps the first other one, for which it asks
whether its accumulator is still empty. -/
structure PrefersExact (candidate : α → Option γ) (exact : γ → Bool) (out : Option γ → β)
    (loop : β → List α → β) (isEmpty : β → Bool) : Prop where
  nil : ∀ acc, loop acc [] = acc
  skip : ∀ {x}, candidate x = none → ∀ acc xs, loop acc (x :: xs) = loop acc xs
  found : ∀ {x c}, candidate x = some c → ∀ acc xs, loop acc (x :: xs) =
    if exact c then out (some c) else loop (if isEmpty acc then out (some c) else acc) xs
  empty : isEmpty (out none) = true
  not_empty : ∀ {x c}, candidate x = some c → isEmpty (out (some c)) = false

namespace PrefersExact

variable {candidate : α → Option γ} {exact : γ → Bool} {out : Option γ → β}
  {loop : β → List α → β} {isEmpty : β → Bool}

/-- The loop with the first candidate so far. -/
theorem loop_eq (h : PrefersExact candidate exact out loop isEmpty) (xs : List α)
    (first : Option γ) (hfirst : ∀ c, first = some c → isEmpty (out (some c)) = false) :
    loop (out first) xs =
      out (((xs.filterMap candidate).find? exact).or (first.or (xs.filterMap candidate).head?)) := by
  induction xs generalizing first with
  | nil => simp [h.nil]
  | cons x xs ih =>
    rw [List.filterMap_cons]
    cases hc : candidate x with
    | none => rw [h.skip hc, ih first hfirst]
    | some c =>
      rw [h.found hc]
      cases hexact : exact c with
      | true => simp [hexact]
      | false =>
        have hnext : (if isEmpty (out first) then out (some c) else out first) =
            out (first.or (some c)) := by
          cases first with
          | none => rw [h.empty]; rfl
          | some d => rw [hfirst d rfl]; rfl
        have hkept : ∀ d, first.or (some c) = some d → isEmpty (out (some d)) = false := by
          intro d hor
          rcases Option.or_eq_some_iff.mp hor with hd | ⟨-, hd⟩
          · exact hfirst d hd
          · exact hd ▸ h.not_empty hc
        rw [if_neg (by simp), hnext, ih _ hkept, Option.or_assoc, Option.some_or,
          List.find?_cons_of_neg (by simp [hexact]), List.head?_cons]

theorem eq_preferred (h : PrefersExact candidate exact out loop isEmpty) (xs : List α) :
    loop (out none) xs = out (preferred exact (xs.filterMap candidate)) := by
  rw [h.loop_eq xs none (by simp), Option.none_or, preferred]

end PrefersExact

end Meshd.Framework

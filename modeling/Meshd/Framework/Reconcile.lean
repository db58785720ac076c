import Mathlib.Data.Finset.Union

namespace Meshd.Framework

variable {α : Type*} [DecidableEq α] {fault : Nat → Bool} {l : List α} {k : Nat}

/-! A set that is changed by one command for each item of a list. Command `k` fails where `fault k`
holds, and then leaves the set as it is; removing what is absent and adding what is present change
nothing. -/

def eraseEach (fault : Nat → Bool) : Nat → List α → Finset α → Finset α
  | _, [], items => items
  | k, a :: rest, items =>
    eraseEach fault (k + 1) rest (if fault k then items else items.erase a)

def insertEach (fault : Nat → Bool) : Nat → List α → Finset α → Finset α
  | _, [], items => items
  | k, a :: rest, items =>
    insertEach fault (k + 1) rest (if fault k then items else insert a items)

/-- The additions up to the first that fails, and whether none did. -/
def insertUntil (fault : Nat → Bool) : Nat → List α → Finset α → Finset α × Bool
  | _, [], items => (items, true)
  | k, a :: rest, items =>
    if fault k then (items, false) else insertUntil fault (k + 1) rest (insert a items)

/-- Some command of a list fails. -/
def anyFault (fault : Nat → Bool) (count : Nat) : Bool := (List.range count).any fault

theorem anyFault_eq_false {count : Nat} :
    anyFault fault count = false ↔ ∀ k < count, fault k = false := by
  simp [anyFault]

theorem mem_eraseEach {items : Finset α} {x : α} :
    x ∈ eraseEach fault k l items ↔
      x ∈ items ∧ ∀ i, l[i]? = some x → fault (k + i) = true := by
  induction l generalizing k items with
  | nil => simp [eraseEach]
  | cons a rest ih =>
    rw [eraseEach, ih]
    have hsplit : (∀ i, (a :: rest)[i]? = some x → fault (k + i) = true) ↔
        (a = x → fault k = true) ∧ ∀ i, rest[i]? = some x → fault (k + 1 + i) = true := by
      constructor
      · intro h
        refine ⟨fun ha => h 0 (by simp [ha]), fun i hi => ?_⟩
        rw [Nat.add_assoc, Nat.add_comm 1 i]
        exact h (i + 1) (by simpa using hi)
      · rintro ⟨h0, hs⟩ i hi
        cases i with
        | zero => exact h0 (by simpa using hi)
        | succ i =>
          rw [Nat.add_comm i 1, ← Nat.add_assoc]
          exact hs i (by simpa using hi)
    rw [hsplit]
    cases hf : fault k with
    | true => simp
    | false =>
      simp only [Bool.false_eq_true, if_false, Finset.mem_erase, imp_false]
      constructor
      · rintro ⟨⟨hne, hmem⟩, h⟩
        exact ⟨hmem, Ne.symm hne, h⟩
      · rintro ⟨hmem, hne, h⟩
        exact ⟨⟨Ne.symm hne, hmem⟩, h⟩

theorem mem_insertEach {items : Finset α} {x : α} :
    x ∈ insertEach fault k l items ↔
      x ∈ items ∨ ∃ i, l[i]? = some x ∧ fault (k + i) = false := by
  induction l generalizing k items with
  | nil => simp [insertEach]
  | cons a rest ih =>
    rw [insertEach, ih]
    have hsplit : (∃ i, (a :: rest)[i]? = some x ∧ fault (k + i) = false) ↔
        (a = x ∧ fault k = false) ∨ ∃ i, rest[i]? = some x ∧ fault (k + 1 + i) = false := by
      constructor
      · rintro ⟨i, hi, hf⟩
        cases i with
        | zero => exact .inl ⟨by simpa using hi, hf⟩
        | succ i =>
          rw [Nat.add_comm i 1, ← Nat.add_assoc] at hf
          exact .inr ⟨i, by simpa using hi, hf⟩
      · rintro (⟨ha, hf⟩ | ⟨i, hi, hf⟩)
        · exact ⟨0, by simp [ha], hf⟩
        · rw [Nat.add_assoc, Nat.add_comm 1 i] at hf
          exact ⟨i + 1, by simpa using hi, hf⟩
    rw [hsplit]
    cases hf : fault k with
    | true => simp
    | false =>
      simp only [Bool.false_eq_true, if_false, Finset.mem_insert, and_true]
      rw [eq_comm, or_comm (a := a = x), or_assoc]

/-- No command fails. -/
theorem eraseEach_of_no_fault (h : ∀ k < l.length, fault k = false) (items : Finset α) :
    eraseEach fault 0 l items = items.filter (· ∉ l) := by
  ext x
  rw [mem_eraseEach, Finset.mem_filter]
  refine and_congr_right fun _ => ?_
  constructor
  · intro hx hmem
    obtain ⟨i, hi⟩ := List.mem_iff_getElem?.mp hmem
    have hlt : i < l.length := (List.getElem?_eq_some_iff.mp hi).1
    simpa [h i hlt] using hx i hi
  · intro hx i hi
    exact absurd (List.mem_of_getElem? hi) hx

theorem insertEach_of_no_fault (h : ∀ k < l.length, fault k = false) (items : Finset α) :
    insertEach fault 0 l items = items ∪ l.toFinset := by
  ext x
  rw [mem_insertEach, Finset.mem_union, List.mem_toFinset, List.mem_iff_getElem?]
  refine or_congr_right (exists_congr fun i => and_iff_left_of_imp fun hi => ?_)
  rw [Nat.zero_add]
  exact h i (List.getElem?_eq_some_iff.mp hi).1

/-- All commands fail. -/
theorem eraseEach_of_fault (h : ∀ k < l.length, fault k = true) (items : Finset α) :
    eraseEach fault 0 l items = items := by
  ext x
  rw [mem_eraseEach]
  refine and_iff_left_of_imp fun _ i hi => ?_
  rw [Nat.zero_add]
  exact h i (List.getElem?_eq_some_iff.mp hi).1

theorem insertEach_of_fault (h : ∀ k < l.length, fault k = true) (items : Finset α) :
    insertEach fault 0 l items = items := by
  ext x
  rw [mem_insertEach]
  refine or_iff_left_of_imp ?_
  rintro ⟨i, hi, hf⟩
  rw [Nat.zero_add, h i (List.getElem?_eq_some_iff.mp hi).1] at hf
  cases hf

theorem insertUntil_of_no_fault (h : ∀ i < l.length, fault (k + i) = false) (items : Finset α) :
    insertUntil fault k l items = (items ∪ l.toFinset, true) := by
  induction l generalizing k items with
  | nil => simp [insertUntil]
  | cons a rest ih =>
    have h0 : fault k = false := h 0 (by simp)
    have hs (i : Nat) (hi : i < rest.length) : fault (k + 1 + i) = false := by
      rw [Nat.add_assoc, Nat.add_comm 1 i]
      exact h (i + 1) (by simpa using hi)
    rw [insertUntil, h0, if_neg (by simp), ih hs]
    congr 1
    ext x
    simp only [Finset.mem_union, Finset.mem_insert, List.mem_toFinset, List.mem_cons]
    tauto

theorem insertUntil_snd {items : Finset α} :
    (insertUntil fault k l items).2 = true ↔ ∀ i < l.length, fault (k + i) = false := by
  constructor
  · intro h
    induction l generalizing k items with
    | nil => simp
    | cons a rest ih =>
      rw [insertUntil] at h
      split_ifs at h with hf
      intro i hi
      cases i with
      | zero => simpa using hf
      | succ i =>
        rw [Nat.add_comm i 1, ← Nat.add_assoc]
        exact ih h i (by simpa using hi)
  · intro h
    rw [insertUntil_of_no_fault h]

end Meshd.Framework

import Meshd.Framework.Heap

namespace Meshd.Framework

/-! Objects of a heap that have one owner each. -/

variable {α ω : Type*} {h h' : Heap α} {owned owned' : ω → Option Nat} {o o' : ω} {p q : Nat}

/-- What is owned has been handed out, and no two owners share it. -/
structure Owns (h : Heap α) (owned : ω → Option Nat) : Prop where
  lt : ∀ {o p}, owned o = some p → p < h.next
  inj : ∀ {o o' p}, owned o = some p → owned o' = some p → o = o'

namespace Owns

/-- Owners may let go of what they own. -/
theorem mono (hs : Owns h owned) (hnext : h.next ≤ h'.next)
    (hsub : ∀ o p, owned' o = some p → owned o = some p) : Owns h' owned' where
  lt ho := Nat.lt_of_lt_of_le (hs.lt (hsub _ _ ho)) hnext
  inj ho ho' := hs.inj (hsub _ _ ho) (hsub _ _ ho')

/-- A new object goes to one owner. -/
theorem alloc (hs : Owns h owned) (hnext : h'.next = h.next + 1) (new : ω)
    (hsub : ∀ o p, owned' o = some p → o = new ∧ p = h.next ∨ owned o = some p) :
    Owns h' owned' where
  lt := by
    intro o p ho
    rcases hsub o p ho with ⟨-, rfl⟩ | ho
    · omega
    · have := hs.lt ho
      omega
  inj := by
    intro o o' p ho ho'
    rcases hsub o p ho with ⟨rfl, rfl⟩ | hold <;> rcases hsub o' _ ho' with ⟨rfl, hp⟩ | hold'
    · rfl
    · exact absurd (hs.lt hold') (Nat.lt_irrefl _)
    · exact absurd (hs.lt hold) (hp ▸ Nat.lt_irrefl _)
    · exact hs.inj hold hold'

/-- What one owner writes, the others do not see. -/
theorem set_cell (hs : Owns h owned) (ho : owned o = some p) (ho' : owned o' = some q)
    (hne : o ≠ o') (a : α) : (h.set q a).cell p = h.cell p := by
  refine Heap.set_cell_of_ne h a ?_
  rintro rfl
  exact hne (hs.inj ho ho')

theorem alloc_cell (hs : Owns h owned) (ho : owned o = some p) (a : α) :
    (h.alloc a).cell p = h.cell p :=
  Heap.alloc_cell_of_lt h a (hs.lt ho)

end Owns

end Meshd.Framework

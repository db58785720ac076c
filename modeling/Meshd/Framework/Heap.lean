import Mathlib.Logic.Function.Basic

namespace Meshd.Framework

/-- A store of objects of one type. What has been handed out lies below `next`. -/
structure Heap (α : Type*) where
  next : Nat
  cell : Nat → α

namespace Heap

variable {α : Type*}

/-- A new object at the address `h.next`. -/
def alloc (h : Heap α) (a : α) : Heap α := ⟨h.next + 1, Function.update h.cell h.next a⟩

def set (h : Heap α) (p : Nat) (a : α) : Heap α := { h with cell := Function.update h.cell p a }

@[simp] theorem alloc_cell_self (h : Heap α) (a : α) : (h.alloc a).cell h.next = a :=
  Function.update_self _ _ _

theorem alloc_cell_of_lt (h : Heap α) (a : α) {p : Nat} (hp : p < h.next) :
    (h.alloc a).cell p = h.cell p :=
  Function.update_of_ne (Nat.ne_of_lt hp) _ _

@[simp] theorem set_cell_self (h : Heap α) (p : Nat) (a : α) : (h.set p a).cell p = a :=
  Function.update_self _ _ _

theorem set_cell_of_ne (h : Heap α) {p q : Nat} (a : α) (hq : q ≠ p) :
    (h.set p a).cell q = h.cell q :=
  Function.update_of_ne hq _ _

/-- No object of `S` has been written, and no address has been given back. -/
structure Extends (S : Nat → Prop) (h h' : Heap α) : Prop where
  next_le : h.next ≤ h'.next
  cell_eq : ∀ p, S p → h'.cell p = h.cell p

variable {S : Nat → Prop} {h h' : Heap α}

theorem Extends.refl (S : Nat → Prop) (h : Heap α) : Extends S h h :=
  ⟨Nat.le_refl _, fun _ _ => rfl⟩

theorem Extends.alloc (hx : Extends S h h') (hS : ∀ p, S p → p < h.next) (a : α) :
    Extends S h (h'.alloc a) := by
  refine ⟨Nat.le_succ_of_le hx.next_le, ?_⟩
  intro p hp
  rw [alloc_cell_of_lt _ _ (Nat.lt_of_lt_of_le (hS p hp) hx.next_le)]
  exact hx.cell_eq p hp

theorem Extends.set (hx : Extends S h h') {p : Nat} (hp : ¬ S p) (a : α) :
    Extends S h (h'.set p a) := by
  refine ⟨hx.next_le, ?_⟩
  intro q hq
  have hne : q ≠ p := by
    intro heq
    subst heq
    exact hp hq
  rw [set_cell_of_ne _ _ hne]
  exact hx.cell_eq q hq

end Heap

end Meshd.Framework

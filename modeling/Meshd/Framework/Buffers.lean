import Meshd.Framework.Base64
import Meshd.Framework.Heap

namespace Meshd.Framework

/-- The byte buffers of a process. -/
abbrev Buffers := Heap Bytes

namespace Buffers

variable (h : Buffers)

/-- `append([]byte(nil), b...)`, or `make` and `copy`: the copy is the buffer at `h.next`. -/
def copy (p : Nat) : Buffers := h.alloc (h.cell p)

/-- `clear(b)`. -/
def clear (p : Nat) : Buffers := h.set p (List.replicate (h.cell p).length 0)

variable {h} {p q : Nat}

theorem clear_cell_of_ne (hq : q ≠ p) : (clear h p).cell q = h.cell q :=
  Heap.set_cell_of_ne h _ hq

@[simp] theorem clear_next : (clear h p).next = h.next := rfl

@[simp] theorem copy_next : (copy h p).next = h.next + 1 := rfl

/-- The buffer holds nothing but zeros. -/
def Wiped (h : Buffers) (p : Nat) : Prop := ∀ b ∈ h.cell p, b = 0

theorem wiped_clear : Wiped (clear h p) p := by
  intro b hb
  rw [clear, Heap.set_cell_self] at hb
  exact List.eq_of_mem_replicate hb

end Buffers

end Meshd.Framework

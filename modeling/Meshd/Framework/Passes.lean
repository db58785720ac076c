import Mathlib.Logic.Equiv.Defs
import Mathlib.Data.List.Basic

namespace Meshd.Framework

/-! An accumulator that is threaded through a row of registers by steps that can be undone. Going
through the row from its end with the inverse steps undoes a pass. -/

variable {A R : Type} (step : Nat → Equiv.Perm (A × R))

/-- One pass, from the first register on. The steps are numbered from `t`. -/
def pass (t : Nat) (a : A) : List R → A × List R
  | [] => (a, [])
  | r :: rest =>
    let b := step t (a, r)
    let s := pass (t + 1) b.1 rest
    (s.1, b.2 :: s.2)

/-- The inverse steps, from the last register on. -/
def unpass (t : Nat) (a : A) : List R → A × List R
  | [] => (a, [])
  | r :: rest =>
    let s := unpass (t + 1) a rest
    let b := (step t).symm (s.1, r)
    (b.1, b.2 :: s.2)

/-- A number of passes, each numbered on from `width` steps after the one before. -/
def passes (count width : Nat) (s : A × List R) : A × List R :=
  (List.range count).foldl (fun s j => pass step (width * j) s.1 s.2) s

def unpasses (count width : Nat) (s : A × List R) : A × List R :=
  (List.range count).foldr (fun j s => unpass step (width * j) s.1 s.2) s

variable {step}

theorem unpass_pass (t : Nat) (a : A) (row : List R) :
    unpass step t (pass step t a row).1 (pass step t a row).2 = (a, row) := by
  induction row generalizing t a with
  | nil => rfl
  | cons r rest ih =>
    rw [pass]
    simp only [unpass]
    rw [ih, Prod.eta, Equiv.symm_apply_apply]

theorem pass_unpass (t : Nat) (a : A) (row : List R) :
    pass step t (unpass step t a row).1 (unpass step t a row).2 = (a, row) := by
  induction row generalizing t a with
  | nil => rfl
  | cons r rest ih =>
    rw [unpass]
    simp only [pass]
    rw [Prod.eta, Equiv.apply_symm_apply, ih]

@[simp] theorem length_pass (t : Nat) (a : A) (row : List R) :
    (pass step t a row).2.length = row.length := by
  induction row generalizing t a with
  | nil => rfl
  | cons r rest ih => simp [pass, ih]

@[simp] theorem length_unpass (t : Nat) (a : A) (row : List R) :
    (unpass step t a row).2.length = row.length := by
  induction row generalizing t a with
  | nil => rfl
  | cons r rest ih => simp [unpass, ih]

theorem passes_succ (count width : Nat) (s : A × List R) :
    passes step (count + 1) width s =
      pass step (width * count) (passes step count width s).1 (passes step count width s).2 := by
  rw [passes, List.range_succ, List.foldl_append]
  rfl

theorem unpasses_succ (count width : Nat) (s : A × List R) :
    unpasses step (count + 1) width s =
      unpasses step count width (unpass step (width * count) s.1 s.2) := by
  rw [unpasses, List.range_succ, List.foldr_append]
  rfl

theorem unpasses_passes (count width : Nat) (s : A × List R) :
    unpasses step count width (passes step count width s) = s := by
  induction count with
  | zero => rfl
  | succ count ih => rw [passes_succ, unpasses_succ, unpass_pass, Prod.eta, ih]

theorem passes_unpasses (count width : Nat) (s : A × List R) :
    passes step count width (unpasses step count width s) = s := by
  induction count generalizing s with
  | zero => rfl
  | succ count ih => rw [unpasses_succ, passes_succ, ih, pass_unpass, Prod.eta]

@[simp] theorem length_unpasses (count width : Nat) (s : A × List R) :
    (unpasses step count width s).2.length = s.2.length := by
  induction count generalizing s with
  | zero => rfl
  | succ count ih => rw [unpasses_succ, ih, length_unpass]

@[simp] theorem length_passes (count width : Nat) (s : A × List R) :
    (passes step count width s).2.length = s.2.length := by
  induction count with
  | zero => rfl
  | succ count ih => rw [passes_succ, length_pass, ih]

end Meshd.Framework

import Mathlib.Data.List.AList
import Mathlib.Data.Int.Order.Basic

namespace Meshd.Framework

/-- Nanoseconds since Go's zero time, so that `IsZero` asks for `0`. -/
abbrev Time := Int

/-- Nanoseconds. -/
abbrev Duration := Int

def second : Duration := 1000000000

def minute : Duration := 60 * second

def maxDuration : Duration := 9223372036854775807

def minDuration : Duration := -9223372036854775808

/-- `t.Sub(u)`, which saturates at the ends of the range of a duration. -/
def timeSub (t u : Time) : Duration := max minDuration (min maxDuration (t - u))

def firstNonEmpty (values : List String) : String := (values.find? (· ≠ "")).getD ""

/-- A Go map with string keys; what a `range` over it visits first is never relied on. -/
abbrev GoMap (β : Type) := AList (fun _ : String => β)

namespace GoMap

variable {β : Type}

/-- `len(m) == 0`. -/
def isEmpty (m : GoMap β) : Bool := m.entries.isEmpty

theorem isEmpty_iff {m : GoMap β} : isEmpty m = true ↔ m = ∅ := by
  rw [isEmpty, List.isEmpty_iff]
  exact ⟨fun h => AList.ext h, fun h => h ▸ rfl⟩

theorem isEmpty_false_of_lookup {m : GoMap β} {k : String} {b : β} (h : m.lookup k = some b) :
    isEmpty m = false := by
  rw [← Bool.not_eq_true, isEmpty_iff]
  intro heq
  subst heq
  simp at h

theorem exists_lookup_of_not_empty {m : GoMap β} (h : isEmpty m = false) :
    ∃ k b, m.lookup k = some b := by
  cases hm : m.entries with
  | nil => simp [isEmpty, hm] at h
  | cons e es => exact ⟨e.1, e.2, AList.mem_lookup_iff.mpr (by simp [hm])⟩

/-- What a `range` over the map gives for the value. -/
def values (m : GoMap β) : List β := m.entries.map (·.2)

@[simp] theorem values_empty : values (∅ : GoMap β) = [] := rfl

theorem mem_values {m : GoMap β} {b : β} : b ∈ values m ↔ ∃ k, m.lookup k = some b := by
  simp only [values, List.mem_map, ← Option.mem_def, AList.mem_lookup_iff]
  constructor
  · rintro ⟨e, he, rfl⟩
    exact ⟨e.1, he⟩
  · rintro ⟨k, he⟩
    exact ⟨⟨k, b⟩, he, rfl⟩

theorem mem_values_insert {m : GoMap β} {k : String} {b c : β} (h : c ∈ values (m.insert k b)) :
    c = b ∨ c ∈ values m := by
  obtain ⟨e, he, rfl⟩ := List.mem_map.mp h
  rw [AList.entries_insert, List.mem_cons] at he
  rcases he with rfl | he
  · exact .inl rfl
  · exact .inr (List.mem_map.mpr ⟨e, (List.kerase_sublist k m.entries).subset he, rfl⟩)

/-- The order in which a `range` visits the entries of a map. -/
structure Order (β : Type) where
  visit : GoMap β → List (String × β)
  visit_perm : ∀ m, (visit m).Perm (m.entries.map fun e => (e.1, e.2))

end GoMap

end Meshd.Framework

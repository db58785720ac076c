import Meshd.Framework.Go
import Mathlib.Data.List.Induction

namespace Meshd.Framework.GoMap

/-! Maps by their entries, and maps that are built in a loop. -/

variable {β : Type} {m : GoMap β} {k v : String} {b : β} {l : List (String × β)}

def pairs (m : GoMap β) : List (String × β) := m.entries.map fun e => (e.1, e.2)

theorem mem_pairs : (k, b) ∈ pairs m ↔ m.lookup k = some b := by
  rw [← Option.mem_def, AList.mem_lookup_iff, pairs, List.mem_map]
  constructor
  · rintro ⟨e, he, heq⟩
    obtain ⟨rfl, rfl⟩ := Prod.mk.inj heq
    exact he
  · intro he
    exact ⟨_, he, rfl⟩

theorem pairs_insert (h : k ∉ m) : pairs (m.insert k b) = (k, b) :: pairs m := by
  rw [pairs, AList.entries_insert_of_notMem h]
  rfl

/-- A map literal. -/
def ofList (l : List (String × β)) : GoMap β := l.foldl (fun m e => m.insert e.1 e.2) ∅

theorem pairs_foldl_insert (hnodup : (l.map Prod.fst).Nodup) (hfresh : ∀ e ∈ l, e.1 ∉ m) :
    pairs (l.foldl (fun m e => m.insert e.1 e.2) m) = l.reverse ++ pairs m := by
  induction l generalizing m with
  | nil => rfl
  | cons e l ih =>
    obtain ⟨he, hnodup⟩ := List.nodup_cons.mp hnodup
    obtain ⟨hfirst, hrest⟩ := List.forall_mem_cons.mp hfresh
    have hfresh' : ∀ e' ∈ l, e'.1 ∉ m.insert e.1 e.2 := by
      intro e' he' hmem
      obtain heq | hmem := (AList.mem_insert _).mp hmem
      · exact he (heq ▸ List.mem_map_of_mem he')
      · exact hrest e' he' hmem
    rw [List.foldl_cons, ih hnodup hfresh', pairs_insert hfirst, List.reverse_cons,
      List.append_assoc]
    rfl

theorem pairs_ofList (hnodup : (l.map Prod.fst).Nodup) : pairs (ofList l) = l.reverse := by
  rw [ofList, pairs_foldl_insert hnodup fun _ _ => AList.notMem_empty _]
  exact List.append_nil _

theorem lookup_ofList (hnodup : (l.map Prod.fst).Nodup) :
    (ofList l).lookup k = some b ↔ (k, b) ∈ l := by
  rw [← mem_pairs, pairs_ofList hnodup, List.mem_reverse]

theorem lookup_ofList_none (hnodup : (l.map Prod.fst).Nodup) (h : k ∉ l.map Prod.fst) :
    (ofList l).lookup k = none := by
  cases hlookup : (ofList l).lookup k with
  | none => rfl
  | some b => exact absurd (List.mem_map_of_mem ((lookup_ofList hnodup).mp hlookup)) h

/-- A `range` visits the entries of a literal. -/
theorem mem_visit_ofList (order : Order β) (hnodup : (l.map Prod.fst).Nodup) {e : String × β} :
    e ∈ order.visit (ofList l) ↔ e ∈ l := by
  rw [(order.visit_perm (ofList l)).mem_iff, ← pairs, pairs_ofList hnodup, List.mem_reverse]

theorem nodup_visit (order : Order β) (m : GoMap β) : ((order.visit m).map Prod.fst).Nodup := by
  have hkeys : (m.entries.map fun e => (e.1, e.2)).map Prod.fst = m.keys := by
    rw [List.map_map]
    rfl
  rw [((order.visit_perm m).map Prod.fst).nodup_iff, hkeys]
  exact m.keys_nodup

/-! ### Names gathered under a value -/

/-- The names of the entries under the value `f` gives each of them. -/
def gather (f : β → String) (l : List (String × β)) : GoMap (List String) :=
  l.foldl (fun m e => m.insert (f e.2) ((m.lookup (f e.2)).getD [] ++ [e.1])) ∅

theorem lookup_gather (f : β → String) (l : List (String × β)) (v : String) :
    (gather f l).lookup v =
      if l.filter (f ·.2 = v) = [] then none else some ((l.filter (f ·.2 = v)).map Prod.fst) := by
  induction l using List.reverseRecOn with
  | nil => rfl
  | append_singleton l e ih =>
    have hstep : gather f (l ++ [e]) = (gather f l).insert (f e.2)
        (((gather f l).lookup (f e.2)).getD [] ++ [e.1]) := by
      rw [gather, List.foldl_append]
      rfl
    rw [hstep, List.filter_append]
    by_cases hv : f e.2 = v
    · subst hv
      rw [AList.lookup_insert, ih]
      by_cases hnone : l.filter (fun e' => f e'.2 = f e.2) = []
      · simp [hnone]
      · simp [hnone]
    · have hother : [e].filter (f ·.2 = v) = [] := by simp [hv]
      rw [AList.lookup_insert_ne (Ne.symm hv), ih, hother, List.append_nil]

/-! ### Numbered names -/

/-- The name of each text by its place in the list. -/
def numbered (letter : String) (ids : List String) : GoMap String :=
  ofList (ids.zipIdx.map fun e => (e.1, letter ++ toString e.2))

theorem lookup_numbered {letter : String} {ids : List String} (hnodup : ids.Nodup) {id : String}
    (hid : id ∈ ids) : (numbered letter ids).lookup id = some (letter ++ toString (ids.idxOf id)) := by
  have hkeys : (ids.zipIdx.map fun e => (e.1, letter ++ toString e.2)).map Prod.fst = ids := by
    rw [List.map_map]
    exact List.zipIdx_map_fst 0 ids
  rw [← mem_pairs, numbered, pairs_ofList (by rw [hkeys]; exact hnodup), List.mem_reverse,
    List.mem_map]
  refine ⟨(id, ids.idxOf id), ?_, rfl⟩
  rw [List.mem_zipIdx_iff_getElem?]
  exact List.getElem?_idxOf hid

end Meshd.Framework.GoMap

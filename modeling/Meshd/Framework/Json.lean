import Mathlib.Data.Option.Basic
import Mathlib.Data.Nat.Log
import Mathlib.Algebra.Ring.Int.Defs
import Mathlib.Algebra.Ring.Nat

namespace Meshd.Framework

/-- A JSON value. The members of an object are found by name; a reader never sees their order. -/
inductive Json where
  | null
  | bool (b : Bool)
  | num (n : Int)
  | str (s : String)
  | arr (items : List Json)
  | obj (fields : List (String × Json))

namespace Json

/-- The member of an object. -/
def field (name : String) : List (String × Json) → Option Json
  | [] => none
  | (k, v) :: rest => if k = name then some v else field name rest

/-- The object with a member set. -/
def setField (name : String) (value : Json) : List (String × Json) → List (String × Json)
  | [] => [(name, value)]
  | (k, v) :: rest =>
    if k = name then (name, value) :: rest else (k, v) :: setField name value rest

@[simp] theorem field_setField_self (name : String) (value : Json)
    (fields : List (String × Json)) : field name (setField name value fields) = some value := by
  induction fields with
  | nil => simp [setField, field]
  | cons p rest ih =>
    obtain ⟨k, v⟩ := p
    rw [setField]
    split_ifs with h
    · simp [field]
    · rw [field, if_neg h, ih]

theorem field_setField_of_ne {name other : String} (h : other ≠ name) (value : Json)
    (fields : List (String × Json)) :
    field other (setField name value fields) = field other fields := by
  induction fields with
  | nil => simp [setField, field, Ne.symm h]
  | cons p rest ih =>
    obtain ⟨k, v⟩ := p
    rw [setField]
    split_ifs with hk
    · subst hk
      simp [field, Ne.symm h]
    · rw [field, field, ih]

/-- Setting a member to what it is changes nothing. -/
theorem setField_eq_self {name : String} {value : Json} {fields : List (String × Json)}
    (h : field name fields = some value) : setField name value fields = fields := by
  induction fields with
  | nil => simp [field] at h
  | cons p rest ih =>
    obtain ⟨k, v⟩ := p
    rw [field] at h
    rw [setField]
    split_ifs at h ⊢ with hk
    · obtain rfl := Option.some.inj h
      rw [hk]
    · rw [ih h]

/-- A type assertion to `map[string]any`. -/
def asObject : Json → Option (List (String × Json))
  | .obj fields => some fields
  | _ => none

def asString : Json → Option String
  | .str s => some s
  | _ => none

def asArray : Json → Option (List Json)
  | .arr items => some items
  | _ => none

/-- The nearest multiple of `2 ^ k`, ties to even. -/
def roundBits (n k : Nat) : Nat :=
  let q := n / 2 ^ k
  let r := n % 2 ^ k
  if 2 * r > 2 ^ k ∨ (2 * r = 2 ^ k ∧ q % 2 = 1) then (q + 1) * 2 ^ k else q * 2 ^ k

/-- An integer as a `float64`, `none` where it is too large. -/
def float64 (n : Int) : Option Int :=
  let m := roundBits n.natAbs (n.natAbs.log2 + 1 - 53)
  if 1024 ≤ m.log2 then none else some (if n < 0 then -(m : Int) else m)

theorem float64_of_small {n : Int} (h : n.natAbs < 2 ^ 53) : float64 n = some n := by
  have hlog : n.natAbs.log2 < 53 := by
    by_cases h0 : n.natAbs = 0
    · rw [h0]
      decide
    · exact (Nat.log2_lt h0).mpr h
  have hbits : n.natAbs.log2 + 1 - 53 = 0 := by omega
  have hround : roundBits n.natAbs 0 = n.natAbs := by
    simp [roundBits, Nat.mod_one]
  rw [float64, hbits, hround, if_neg (by omega)]
  split_ifs with hn
  · congr 1
    omega
  · congr 1
    omega

mutual

/-- What `json.Unmarshal` into an `any` makes of a value: every number becomes a `float64`. -/
def unmarshal : Json → Option Json
  | .num n => (float64 n).map .num
  | .arr items => (unmarshalItems items).map .arr
  | .obj fields => (unmarshalFields fields).map .obj
  | .null => some .null
  | .bool b => some (.bool b)
  | .str s => some (.str s)

def unmarshalItems : List Json → Option (List Json)
  | [] => some []
  | v :: vs => (unmarshal v).bind fun v' => (unmarshalItems vs).map (v' :: ·)

def unmarshalFields : List (String × Json) → Option (List (String × Json))
  | [] => some []
  | p :: ps => (unmarshalField p).bind fun p' => (unmarshalFields ps).map (p' :: ·)

def unmarshalField : String × Json → Option (String × Json)
  | (k, v) => (unmarshal v).map ((k, ·))

end

mutual

/-- All numbers of the value are below `2 ^ 53`. -/
def Small : Json → Prop
  | .num n => n.natAbs < 2 ^ 53
  | .arr items => SmallItems items
  | .obj fields => SmallFields fields
  | .null => True
  | .bool _ => True
  | .str _ => True

def SmallItems : List Json → Prop
  | [] => True
  | v :: vs => Small v ∧ SmallItems vs

def SmallFields : List (String × Json) → Prop
  | [] => True
  | p :: ps => SmallField p ∧ SmallFields ps

def SmallField : String × Json → Prop
  | (_, v) => Small v

end

mutual

def decidableSmall : ∀ v, Decidable (Small v)
  | .num n => inferInstanceAs (Decidable (n.natAbs < 2 ^ 53))
  | .arr items => decidableSmallItems items
  | .obj fields => decidableSmallFields fields
  | .null => inferInstanceAs (Decidable True)
  | .bool _ => inferInstanceAs (Decidable True)
  | .str _ => inferInstanceAs (Decidable True)

def decidableSmallItems : ∀ vs, Decidable (SmallItems vs)
  | [] => inferInstanceAs (Decidable True)
  | v :: vs => @instDecidableAnd _ _ (decidableSmall v) (decidableSmallItems vs)

def decidableSmallFields : ∀ ps, Decidable (SmallFields ps)
  | [] => inferInstanceAs (Decidable True)
  | p :: ps => @instDecidableAnd _ _ (decidableSmallField p) (decidableSmallFields ps)

def decidableSmallField : ∀ p, Decidable (SmallField p)
  | (_, v) => decidableSmall v

end

instance : DecidablePred SmallFields := decidableSmallFields

mutual

/-- Small numbers survive the reading. -/
theorem unmarshal_of_small : ∀ {v : Json}, Small v → unmarshal v = some v
  | .num n, h => by
    rw [unmarshal, float64_of_small h]
    rfl
  | .arr items, h => by
    rw [unmarshal, unmarshalItems_of_small h]
    rfl
  | .obj fields, h => by
    rw [unmarshal, unmarshalFields_of_small h]
    rfl
  | .null, _ => by rw [unmarshal]
  | .bool b, _ => by rw [unmarshal]
  | .str s, _ => by rw [unmarshal]

theorem unmarshalItems_of_small : ∀ {vs : List Json}, SmallItems vs → unmarshalItems vs = some vs
  | [], _ => by rw [unmarshalItems]
  | v :: vs, h => by
    rw [unmarshalItems, unmarshal_of_small h.1, unmarshalItems_of_small h.2]
    rfl

theorem unmarshalFields_of_small :
    ∀ {ps : List (String × Json)}, SmallFields ps → unmarshalFields ps = some ps
  | [], _ => by rw [unmarshalFields]
  | p :: ps, h => by
    rw [unmarshalFields, unmarshalField_of_small h.1, unmarshalFields_of_small h.2]
    rfl

theorem unmarshalField_of_small : ∀ {p : String × Json}, SmallField p → unmarshalField p = some p
  | (k, v), h => by
    rw [unmarshalField, unmarshal_of_small h]
    rfl

end

theorem SmallFields.setField {name : String} {value : Json} (hv : Small value) :
    ∀ {fields : List (String × Json)}, SmallFields fields →
      SmallFields (Json.setField name value fields)
  | [], _ => ⟨hv, trivial⟩
  | (k, v) :: rest, h => by
    rw [Json.setField]
    split_ifs with hk
    · exact ⟨hv, h.2⟩
    · exact ⟨h.1, SmallFields.setField hv h.2⟩

theorem SmallFields.field {name : String} {value : Json} :
    ∀ {fields : List (String × Json)}, SmallFields fields → Json.field name fields = some value →
      Small value
  | [], _, h => by simp [Json.field] at h
  | (k, v) :: rest, hs, h => by
    rw [Json.field] at h
    split_ifs at h with hk
    · exact Option.some.inj h ▸ hs.1
    · exact SmallFields.field hs.2 h

end Json

end Meshd.Framework

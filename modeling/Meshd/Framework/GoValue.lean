import Meshd.Framework.JsonText
import Mathlib.Data.List.Sort

namespace Meshd.Framework

/-! Go values in an `any`, as `encoding/json` and a canonical CBOR encoder see them. -/

/-- A `float64`: a whole number, `m / 2 ^ (e + 1)` for an odd `m`, or one of the special values. -/
inductive Float64 where
  | whole (n : Int)
  | fraction (m : Int) (e : Nat) (odd : m % 2 = 1)
  | negZero
  | infinite (negative : Bool)
  | nan
deriving DecidableEq

/-- A value in an `any`. Slices and maps whose elements are an `any` are told apart from those of
another type; a nil slice or map is `nil`. -/
inductive GoValue where
  | nil
  | bool (b : Bool)
  | int (n : Int)
  | float (x : Float64)
  | str (s : String)
  /-- `[]byte` -/
  | bytes (b : Bytes)
  /-- `json.RawMessage` -/
  | raw (text : Bytes)
  /-- `[]any` -/
  | slice (items : List GoValue)
  | typedSlice (items : List GoValue)
  /-- `map[string]any` -/
  | map (fields : List (String × GoValue))
  | typedMap (fields : List (String × GoValue))

/-- A JSON text, with its numbers as they were written from an integer or from a `float64`, of which
the text is the shortest that reads back as it. -/
inductive JsonTree where
  | null
  | bool (b : Bool)
  | int (n : Int)
  | float (x : Float64)
  | str (s : String)
  | arr (items : List JsonTree)
  | obj (fields : List (String × JsonTree))

namespace GoValue

section Encode
variable (parse : Bytes → Option JsonTree)

mutual

/-- `json.Marshal`, where `parse` reads the texts of raw messages. -/
def encode : GoValue → Option JsonTree
  | .nil => some .null
  | .bool b => some (.bool b)
  | .int n => some (.int n)
  | .float (.infinite _) => none
  | .float .nan => none
  | .float x => some (.float x)
  | .str s => some (.str s)
  | .bytes b => some (.str (String.ofList (Base64.encodePadded Base64.std b)))
  | .raw text => parse text
  | .slice items => (encodeItems items).map .arr
  | .typedSlice items => (encodeItems items).map .arr
  | .map fields => (encodeFields fields).map .obj
  | .typedMap fields => (encodeFields fields).map .obj

def encodeItems : List GoValue → Option (List JsonTree)
  | [] => some []
  | v :: vs => (encode v).bind fun v' => (encodeItems vs).map (v' :: ·)

def encodeFields : List (String × GoValue) → Option (List (String × JsonTree))
  | [] => some []
  | p :: ps => (encodeField p).bind fun p' => (encodeFields ps).map (p' :: ·)

def encodeField : String × GoValue → Option (String × JsonTree)
  | (k, v) => (encode v).map ((k, ·))

end

end Encode

mutual

/-- `json.Unmarshal` into an `any`. -/
def decode : JsonTree → Option GoValue
  | .null => some .nil
  | .bool b => some (.bool b)
  | .int n => (Json.float64 n).map fun n' => .float (.whole n')
  | .float x => some (.float x)
  | .str s => some (.str s)
  | .arr items => (decodeItems items).map .slice
  | .obj fields => (decodeFields fields).map .map

def decodeItems : List JsonTree → Option (List GoValue)
  | [] => some []
  | v :: vs => (decode v).bind fun v' => (decodeItems vs).map (v' :: ·)

def decodeFields : List (String × JsonTree) → Option (List (String × GoValue))
  | [] => some []
  | p :: ps => (decodeField p).bind fun p' => (decodeFields ps).map (p' :: ·)

def decodeField : String × JsonTree → Option (String × GoValue)
  | (k, v) => (decode v).map ((k, ·))

end

end GoValue

/-! ### CBOR -/

/-- A CBOR data item. -/
inductive Cbor where
  | int (n : Int)
  | bytes (b : Bytes)
  | text (s : String)
  | array (items : List Cbor)
  | map (fields : List (String × Cbor))
  | bool (b : Bool)
  | null
  | float (x : Float64)

namespace Cbor

/-- The head of an item, with the shortest argument. -/
def head (major n : Nat) : Bytes :=
  if n < 24 then [UInt8.ofNat (32 * major + n)]
  else if n < 2 ^ 8 then UInt8.ofNat (32 * major + 24) :: bigEndian 1 n
  else if n < 2 ^ 16 then UInt8.ofNat (32 * major + 25) :: bigEndian 2 n
  else if n < 2 ^ 32 then UInt8.ofNat (32 * major + 26) :: bigEndian 4 n
  else UInt8.ofNat (32 * major + 27) :: bigEndian 8 n

/-- Canonical order of encoded keys: the shorter first, then bytewise. -/
def keyBefore (k k' : Bytes) : Bool :=
  k.length < k'.length || (k.length = k'.length && decide (k ≤ k'))

def encodeText (s : String) : Bytes :=
  head 3 (JsonText.utf8 s).length ++ JsonText.utf8 s

variable (float : Float64 → Bytes)

mutual

/-- Canonical CBOR; `float` gives the shortest encoding of a float. -/
def encode : Cbor → Bytes
  | .int n => if 0 ≤ n then head 0 n.toNat else head 1 (-1 - n).toNat
  | .bytes b => head 2 b.length ++ b
  | .text s => encodeText s
  | .array items => head 4 items.length ++ encodeItems items
  | .map fields =>
    head 5 fields.length ++
      ((encodeFields fields).insertionSort fun p q => keyBefore p.1 q.1 = true).flatMap
        fun p => p.1 ++ p.2
  | .bool b => [if b then 0xf5 else 0xf4]
  | .null => [0xf6]
  | .float x => float x

def encodeItems : List Cbor → Bytes
  | [] => []
  | v :: vs => encode v ++ encodeItems vs

def encodeFields : List (String × Cbor) → List (Bytes × Bytes)
  | [] => []
  | p :: ps => encodeField p :: encodeFields ps

def encodeField : String × Cbor → Bytes × Bytes
  | (k, v) => (encodeText k, encode v)

end

end Cbor

namespace GoValue

mutual

/-- The item a Go value is encoded as. A raw message is a byte slice. -/
def toCbor : GoValue → Cbor
  | .nil => .null
  | .bool b => .bool b
  | .int n => .int n
  | .float x => .float x
  | .str s => .text s
  | .bytes b => .bytes b
  | .raw text => .bytes text
  | .slice items => .array (toCborItems items)
  | .typedSlice items => .array (toCborItems items)
  | .map fields => .map (toCborFields fields)
  | .typedMap fields => .map (toCborFields fields)

def toCborItems : List GoValue → List Cbor
  | [] => []
  | v :: vs => toCbor v :: toCborItems vs

def toCborFields : List (String × GoValue) → List (String × Cbor)
  | [] => []
  | p :: ps => toCborField p :: toCborFields ps

def toCborField : String × GoValue → String × Cbor
  | (k, v) => (k, toCbor v)

end

end GoValue

end Meshd.Framework

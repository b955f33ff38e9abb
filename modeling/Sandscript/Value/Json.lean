import Sandscript.Json.Basic
import Sandscript.Numeric.Shortest
import Sandscript.Value.Basic

/-!
# Values and JSON

Every JSON value becomes a script value; an integer beyond 64 bits with a sign becomes a decimal.  On the way back
characters become strings, blobs become arrays of bytes, and a decimal becomes a number if the number is exact and a
string otherwise.  Floating-point numbers that are not finite, ranges, series and functions have no JSON form.
-/

namespace Sandscript

namespace Json

/-- A whole number; beyond 64 bits with a sign it is a decimal. -/
def ofInteger (n : Int) : Value :=
  if -(2 ^ 63) ≤ n ∧ n < 2 ^ 63 then .int (Int64.ofInt n)
  else .dec ((Decimal.ofNat? n.toNat).getD .zero)

mutual

def toValue : Json → Value
  | null => .unit
  | bool b => .bool b
  | num (.int n _) => ofInteger n
  | num (.float x _) => .float x
  | str s => .str s
  | arr items => .arr (toValues items)
  | obj fields => .map (toEntries fields)

def toValues : List Json → List Value
  | [] => []
  | v :: rest => toValue v :: toValues rest

def toEntries : List (String × Json) → List (String × Value)
  | [] => []
  | (k, v) :: rest => (k, toValue v) :: toEntries rest

end

end Json

/-- A value without a JSON form, and where it stands. -/
structure Unrepresentable where
  path : String
  typeName : String
deriving DecidableEq, Repr

namespace Unrepresentable

def message (u : Unrepresentable) : String := u.typeName ++ " in field '" ++ u.path ++ "'"

end Unrepresentable

namespace Decimal

/-- The JSON form of a decimal: an integer if it is one in range, a number if this number is written with the same
value, and a string otherwise. -/
def toJson (d : Decimal) : Json :=
  let whole := if d.isWhole then Json.ofInt? d.truncated else none
  match whole with
  | some j => j
  | none =>
    let x := d.toBinary64
    match JsonNumber.ofBinary64? x, Decimal.ofText (FloatLayout.unscaled.text x) with
    | some n, .ok back => if back.eqv d then .num n else .str d.text
    | _, _ => .str d.text

end Decimal

namespace Value

def nonFinite : String := "non-finite float"

def itemPath (path : String) (index : Nat) : String := path ++ "[" ++ toString index ++ "]"

def entryPath (path key : String) : String := if path.isEmpty then key else path ++ "." ++ key

mutual

/-- The JSON form of the value at `path`, or the first value in it that has none. -/
def toJsonAt (path : String) : Value → Except Unrepresentable Json
  | unit => .ok .null
  | bool b => .ok (.bool b)
  | int n => .ok (.num (.ofInt64 n))
  | float x =>
    match JsonNumber.ofBinary64? x with
    | some n => .ok (.num n)
    | none => .error ⟨path, nonFinite⟩
  | dec d => .ok d.toJson
  | char c => .ok (.str c.toString)
  | str s => .ok (.str s)
  | arr items =>
    match itemsToJson path 0 items with
    | .ok js => .ok (.arr js)
    | .error u => .error u
  | blob bytes => .ok (.arr (bytes.map fun b => .ofNat b.toNat))
  | map entries =>
    match entriesToJson path entries with
    | .ok js => .ok (.obj js)
    | .error u => .error u
  | fn name held => .error ⟨path, typeName (fn name held)⟩
  | range lo hi => .error ⟨path, typeName (range lo hi)⟩
  | rangeIncl lo hi => .error ⟨path, typeName (rangeIncl lo hi)⟩
  | series s => .error ⟨path, typeName (series s)⟩

def itemsToJson (path : String) (index : Nat) : List Value → Except Unrepresentable (List Json)
  | [] => .ok []
  | v :: rest =>
    match toJsonAt (itemPath path index) v with
    | .error u => .error u
    | .ok j =>
      match itemsToJson path (index + 1) rest with
      | .error u => .error u
      | .ok js => .ok (j :: js)

def entriesToJson (path : String) : List (String × Value) → Except Unrepresentable (List (String × Json))
  | [] => .ok []
  | (k, v) :: rest =>
    match toJsonAt (entryPath path k) v with
    | .error u => .error u
    | .ok j =>
      match entriesToJson path rest with
      | .error u => .error u
      | .ok js => .ok ((k, j) :: js)

end

def toJson (v : Value) : Except Unrepresentable Json := toJsonAt "" v

end Value

end Sandscript

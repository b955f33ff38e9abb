import Sandscript.Fields
import Sandscript.Numeric.Binary64

/-!
# JSON values

A number is either an integer from `-2 ^ 63` to `2 ^ 64 - 1` or a finite floating-point number, and the two kinds stay
apart.  An object holds its fields in ascending order of their names.
-/

namespace Sandscript

inductive JsonNumber where
  | int (n : Int) (inRange : -(2 ^ 63) ≤ n ∧ n < 2 ^ 64)
  | float (x : Binary64) (isFinite : x.isFinite = true)
deriving DecidableEq, Repr

inductive Json where
  | null
  | bool (b : Bool)
  | num (n : JsonNumber)
  | str (s : String)
  | arr (items : List Json)
  | obj (fields : List (String × Json))
deriving Inhabited

/-- One data item: named JSON values. -/
abbrev Record := List (String × Json)

namespace JsonNumber

def ofInt? (n : Int) : Option JsonNumber :=
  if h : -(2 ^ 63) ≤ n ∧ n < 2 ^ 64 then some (.int n h) else none

def ofInt64 (n : Int64) : JsonNumber :=
  .int n.toInt ⟨n.le_toInt, by have := n.toInt_lt; omega⟩

def ofBinary64? (x : Binary64) : Option JsonNumber :=
  if h : x.isFinite = true then some (.float x h) else none

/-- Equality of numbers: an integer never equals a float, and the two zeros are equal. -/
def eqv : JsonNumber → JsonNumber → Bool
  | .int a _, .int b _ => a == b
  | .float a _, .float b _ => a.eqv b
  | _, _ => false

end JsonNumber

namespace Json

def ofInt? (n : Int) : Option Json := (JsonNumber.ofInt? n).map num

/-- A count; counts beyond `2 ^ 64 - 1` do not occur. -/
def ofNat (n : Nat) : Json :=
  if h : n < 2 ^ 64 then num (.int n ⟨by omega, by omega⟩) else null

/-- An object with the given fields in any order. -/
def object (pairs : List (String × Json)) : Json := obj (Fields.ofPairs pairs)

mutual

/-- Equality of values, with numbers compared as numbers. -/
def eqv : Json → Json → Bool
  | null, null => true
  | bool a, bool b => a == b
  | num a, num b => a.eqv b
  | str a, str b => a == b
  | arr a, arr b => eqvItems a b
  | obj a, obj b => eqvFields a b
  | _, _ => false

def eqvItems : List Json → List Json → Bool
  | [], [] => true
  | a :: as, b :: bs => eqv a b && eqvItems as bs
  | _, _ => false

def eqvFields : List (String × Json) → List (String × Json) → Bool
  | [], [] => true
  | (k, a) :: as, (l, b) :: bs => k == l && eqv a b && eqvFields as bs
  | _, _ => false

end

def get? (key : String) : Json → Option Json
  | obj fields => Fields.get? key fields
  | _ => none

end Json

end Sandscript

import Sandscript.Fields
import Sandscript.Numeric.DecimalPower
import Sandscript.Numeric.DecimalReader
import Sandscript.Value.Series

/-!
# Script values

What a script computes with.  A map holds its entries in ascending order of their keys.  A function value names a
function and may hold its first arguments.
-/

namespace Sandscript

inductive Value where
  | unit
  | bool (b : Bool)
  | int (n : Int64)
  | float (x : Binary64)
  | dec (d : Decimal)
  | char (c : Char)
  | str (s : String)
  | arr (items : List Value)
  | map (entries : List (String × Value))
  | blob (bytes : List UInt8)
  | fn (name : String) (held : List Value)
  /-- The integers from `lo` up to, but not including, `hi`. -/
  | range (lo hi : Int64)
  /-- The integers from `lo` up to `hi`. -/
  | rangeIncl (lo hi : Int64)
  | series (s : Series)
deriving Inhabited

namespace Value

def typeName : Value → String
  | unit => "()"
  | bool _ => "bool"
  | int _ => "i64"
  | float _ => "f64"
  | dec _ => "decimal"
  | char _ => "char"
  | str _ => "string"
  | arr _ => "array"
  | map _ => "map"
  | blob _ => "blob"
  | fn _ _ => "Fn"
  | range _ _ => "core::ops::range::Range<i64>"
  | rangeIncl _ _ => "core::ops::range::RangeInclusive<i64>"
  | series s => s.fullTypeName

/-- The type by the name that the interpreter has for it. -/
def shortTypeName : Value → String
  | range _ _ => "range"
  | rangeIncl _ _ => "range="
  | series s => s.typeName
  | v => v.typeName

/-- The type as it stands in the signature of a function that was not found. -/
def signatureName : Value → String
  | str _ => "&str | ImmutableString | String"
  | v => v.shortTypeName

def isUnit : Value → Bool
  | unit => true
  | _ => false

/-- Whether a value is of a kind that the operators of the language do not know. -/
def isForeign : Value → Bool
  | range _ _ | rangeIncl _ _ | series _ => true
  | _ => false

end Value

/-- The first value of a series and what follows it. -/
def Series.next? : Series → Option (Value × Series)
  | integers r => (r.next? .integers).map fun (n, rest) => (.int n, integers rest)
  | floats r => (r.next? .floats).map fun (x, rest) => (.float x, floats rest)
  | decimals r => (r.next? .decimals).map fun (d, rest) => (.dec d, decimals rest)
  | chars [] | bits [] => none
  | chars (c :: rest) => some (.char c, chars rest)
  | bits (b :: rest) => some (.bool b, bits rest)

end Sandscript

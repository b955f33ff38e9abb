import Sandscript.Text.Blank
import Sandscript.Value.Operators

/-!
# Numbers

The numeric functions of the library.  A function either gives the exact result that its rule states or refuses with
a message; no result is wrapped.  Arrays of numbers are compared by their floating-point values, and the first of
equal items wins.
-/

namespace Sandscript.Library

open Numeric

/-- The integer that an operation gives, or a refusal if it gives none. -/
def orRefuse (message : String) : Option Int64 → Except String Int64
  | some w => .ok w
  | none => .error message

/-! ### Conversions -/

def toFloat (n : Int64) : Binary64 := .ofInt n.toInt

/-- The floating-point value of an integer or a floating-point number. -/
def number? : Value → Option Binary64
  | .int n => some (toFloat n)
  | .float x => some x
  | _ => none

private def plainText (x : Binary64) : String := FloatLayout.unscaled.text x

/-- The integer that a whole number stands for. -/
def wholeToInt (caller : String) (x : Binary64) : Except String Int64 :=
  orRefuse (caller ++ "() cannot convert " ++ plainText x ++ " to an integer")
    (if x.isFinite then word? x.truncated else none)

def signedDigits? (cs : List Char) : Option Int :=
  let digits (ds : List Char) : Option Nat :=
    if ds.isEmpty || !ds.all Char.isDigit then none else some (ofDigits ds)
  match cs with
  | '-' :: ds => (digits ds).map fun n => -(n : Int)
  | '+' :: ds => (digits ds).map fun n => (n : Int)
  | ds => (digits ds).map fun n => (n : Int)

/-- Reads decimal digits with an optional sign. -/
def readInt? (s : String) : Option Int64 := (signedDigits? s.toList).bind word?

def toInt : Value → Except String Int64
  | .int n => .ok n
  | .float x => wholeToInt "int" x.trunc
  | .bool b => .ok (if b then 1 else 0)
  | .dec d => orRefuse ("int() cannot convert " ++ d.text ++ " to an integer") (word? d.truncated)
  | .str s => orRefuse ("invalid literal for int(): '" ++ s ++ "'") (readInt? (Text.trim s))
  | v => .error ("int() cannot convert " ++ v.typeName)

def toBinary64 : Value → Except String Binary64
  | .float x => .ok x
  | .int n => .ok (toFloat n)
  | .bool b => .ok (.ofInt (if b then 1 else 0))
  | .dec d => .ok d.toBinary64
  | .str s =>
    match Binary64.ofText? (Text.trim s) with
    | some x => .ok x
    | none => .error ("could not convert string to float: '" ++ s ++ "'")
  | v => .error ("float() cannot convert " ++ v.typeName)

def toDecimal : Value → Except String Decimal
  | .dec d => .ok d
  | .int n => .ok (.ofInt64 n)
  | .float x =>
    match Decimal.ofBinary64? x with
    | some d => .ok d
    | none => .error ("decimal() cannot convert " ++ plainText x ++ ": Error while converting to Decimal")
  | .str s =>
    match Decimal.ofText (Text.trim s) with
    | .ok d => .ok d
    | .error e => .error ("invalid literal for decimal(): '" ++ s ++ "': " ++ e.message)
  | v => .error ("decimal() cannot convert " ++ v.typeName)

/-! ### Absolute values and powers -/

def abs (n : Int64) : Except String Int64 := orRefuse "integer overflow in abs()" (word? n.toInt.natAbs)

def pow (base exponent : Int64) : Except String Int64 :=
  if exponent < 0 ∨ 2 ^ 32 ≤ exponent.toInt then .error "pow() exponent must be a non-negative integer"
  else orRefuse "integer overflow in pow()" (power? base exponent.toInt.toNat)

/-! ### Rounding -/

def round (x : Binary64) : Except String Int64 := wholeToInt "round" x.roundEven

/-- Rounds to a number of decimal places, or to tens, hundreds and so on if it is negative. -/
def roundTo (x : Binary64) (places : Int64) : Except String Binary64 :=
  if places.toInt < -(2 ^ 31) ∨ 2 ^ 31 ≤ places.toInt then .error "round() digits out of range"
  else
    let scale := Binary64.powInt (.ofInt 10) places.toInt
    .ok ((x.mul scale).roundEven.div scale)

/-! ### Arrays of numbers -/

/-- Whether `n` takes the place of the best number so far. -/
def isBetter (smallest : Bool) (n best : Binary64) : Bool := if smallest then n.lt best else best.lt n

/-- The best of some items and of the best number so far, which comes with its floating-point value. -/
def extremeFrom (caller : String) (smallest : Bool) (best : Option (Binary64 × Value)) :
    List Value → Except String Value
  | [] =>
    match best with
    | some (_, v) => .ok v
    | none => .error (caller ++ "() arg is an empty sequence")
  | v :: rest =>
    match number? v with
    | none => .error (caller ++ "() expects numbers, got " ++ v.typeName)
    | some n =>
      let replaces := best.all fun b => isBetter smallest n b.1
      extremeFrom caller smallest (if replaces then some (n, v) else best) rest

/-- The first of the items that no other item undercuts. -/
def least (items : List Value) : Except String Value := extremeFrom "min" true none items

/-- The first of the items that no other item exceeds. -/
def greatest (items : List Value) : Except String Value := extremeFrom "max" false none items

private def sumFloats (total : Binary64) : List Value → Except String Value
  | [] => .ok (.float total)
  | v :: rest =>
    match number? v with
    | some x => sumFloats (total.add x) rest
    | none => .error ("sum() expects numbers, got " ++ v.typeName)

/-- The total of some items and of the integers so far. -/
def sumFrom (total : Int64) : List Value → Except String Value
  | [] => .ok (.int total)
  | .int n :: rest =>
    match word? (total.toInt + n.toInt) with
    | some w => sumFrom w rest
    | none => .error "integer overflow in sum()"
  | .float x :: rest => sumFloats ((toFloat total).add x) rest
  | v :: _ => .error ("sum() expects numbers, got " ++ v.typeName)

/-- The total, an integer as long as the items are integers. -/
def sum (items : List Value) : Except String Value := sumFrom 0 items

/-- What numbers are sorted by. -/
def sortKey (v : Value) : Int := ((number? v).getD .nan).totalKey

/-- What strings are sorted by. -/
def stringKey : Value → String
  | .str s => s
  | _ => ""

def isText : Value → Bool
  | .str _ => true
  | _ => false

/-- Numbers in ascending order of their floating-point values, or strings by code points; equal items keep their
order. -/
def sorted (items : List Value) (descending : Bool) : Except String (List Value) :=
  let ordered : Except String (List Value) :=
    if items.all fun v => (number? v).isSome then .ok (items.mergeSort fun a b => sortKey a ≤ sortKey b)
    else if items.all isText then .ok (items.mergeSort fun a b => stringKey a ≤ stringKey b)
    else .error "sorted() expects all numbers or all strings"
  ordered.map fun vs => if descending then vs.reverse else vs

/-! ### The namespace of mathematics -/

def constants : List (String × Binary64) :=
  [("PI", ⟨0x400921FB54442D18⟩), ("E", ⟨0x4005BF0A8B145769⟩), ("TAU", ⟨0x401921FB54442D18⟩),
   ("SQRT_2", ⟨0x3FF6A09E667F3BCD⟩), ("LN_2", ⟨0x3FE62E42FEFA39EF⟩), ("LN_10", ⟨0x40026BB1BBB55516⟩),
   ("INF", .infinity), ("NAN", .nan)]

def unaryFunctions : List (String × (Binary64 → Binary64)) :=
  [("sqrt", .sqrt), ("exp", .map Float.exp), ("ln", .map Float.log), ("log10", .map Float.log10),
   ("log2", .map Float.log2), ("sin", .map Float.sin), ("cos", .map Float.cos), ("tan", .map Float.tan),
   ("asin", .map Float.asin), ("acos", .map Float.acos), ("atan", .map Float.atan), ("sinh", .map Float.sinh),
   ("cosh", .map Float.cosh), ("tanh", .map Float.tanh), ("floor", .floor), ("ceil", .ceil), ("trunc", .trunc),
   ("fabs", .abs)]

/-- The logarithm of `x` to the base `b`. -/
def logarithm (x b : Binary64) : Binary64 := (x.map Float.log).div (b.map Float.log)

def binaryFunctions : List (String × (Binary64 → Binary64 → Binary64)) :=
  [("atan2", .map₂ Float.atan2), ("hypot", .hypot), ("pow", .pow), ("log", logarithm)]

def predicates : List (String × (Binary64 → Bool)) :=
  [("is_finite", Binary64.isFinite), ("is_nan", Binary64.isNaN), ("is_infinite", Binary64.isInfinite)]

/-- A call in the namespace of mathematics; absent if there is no such function. -/
def mathCall? (name : String) (args : List Value) : Option Value := do
  let xs ← args.mapM number?
  match xs with
  | [x] =>
    match unaryFunctions.lookup name with
    | some f => some (.float (f x))
    | none => (predicates.lookup name).map fun p => .bool (p x)
  | [x, y] => (binaryFunctions.lookup name).map fun f => .float (f x y)
  | _ => none

end Sandscript.Library

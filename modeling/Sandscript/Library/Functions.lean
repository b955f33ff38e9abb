import Sandscript.Library.Arrays
import Sandscript.Library.Collections
import Sandscript.Library.Ranges
import Sandscript.Library.Texts
import Sandscript.Value.Text

/-!
# The functions of the library

Which function a name stands for, given the kinds of its arguments.  `call?` answers calls that change nothing,
`update?` calls that change their first argument, and `property?` what is reached by a name behind a point.  The
answer is absent where there is no such function.

The functions are those of the interpreter's packages for arithmetic, comparisons, strings, arrays, maps and loops, for
the kinds of values that a script can come by, and the functions that a sandbox adds to them; where both have one for
the same kinds, it is the latter.  The functions that print or take callbacks are found by the calls of a run.
-/

namespace Sandscript.Library

/-- How a call ends whose function gives a result or refuses with a message. -/
def refused {α : Type} (f : α → Value) : Except String α → Option (Except Fault Value)
  | .ok a => some (.ok (f a))
  | .error message => some (.error (.refusal message))

private def pure (v : Value) : Option (Except Fault Value) := some (.ok v)

/-! ### Smaller and larger -/

/-- The one of two decimals that is asked for; the first of equal ones. -/
private def chooseDecimal (smallest : Bool) (a b : Decimal) : Value :=
  let o := a.compare b
  .dec (if smallest then (if o == .gt then b else a) else (if o == .lt then b else a))

private def chooseFloat (smallest : Bool) (a b : Binary64) : Value :=
  .float (if smallest then a.lesser b else a.greater b)

/-- The smaller or the larger of two values of comparable kinds. -/
def choose? (smallest : Bool) : Value → Value → Option Value
  | .int a, .int b => some (.int (if smallest then (if b < a then b else a) else (if a < b then b else a)))
  | .float a, .float b => some (chooseFloat smallest a b)
  | .int a, .float b => some (chooseFloat smallest (toFloat a) b)
  | .float a, .int b => some (chooseFloat smallest a (toFloat b))
  | .dec a, .dec b => some (chooseDecimal smallest a b)
  | .int a, .dec b => some (chooseDecimal smallest (.ofInt64 a) b)
  | .dec a, .int b => some (chooseDecimal smallest a (.ofInt64 b))
  | .str a, .str b => some (.str (if smallest then (if b < a then b else a) else (if a < b then b else a)))
  | .char a, .char b => some (.char (if smallest then (if b < a then b else a) else (if a < b then b else a)))
  | _, _ => none

/-- The smaller of two values of comparable kinds. -/
def lesser? (a b : Value) : Option Value := choose? true a b

/-- The larger of two values of comparable kinds. -/
def greater? (a b : Value) : Option Value := choose? false a b

/-! ### Powers -/

private def power? : Value → Value → Option (Except Fault Value)
  | .int a, .int b => refused .int (pow a b)
  | .float a, .float b => pure (.float (a.pow b))
  | .int a, .float b => pure (.float ((toFloat a).pow b))
  | .float a, .int b => pure (.float (a.pow (toFloat b)))
  | _, _ => none

private def sign? : Value → Option (Except Fault Value)
  | .int n => pure (.int (if n < 0 then -1 else if n = 0 then 0 else 1))
  | .float x =>
    if x.isNaN then some (.error (.arithmetic .undefinedSign))
    else pure (.int (if x.isZero then 0 else if x.isNegative then -1 else 1))
  | .dec d => pure (.int (if d.isZero then 0 else if d.negative then -1 else 1))
  | _ => none

private def isZero? : Value → Option Bool
  | .int n => some (n == 0)
  | .float x => some x.isZero
  | .dec d => some d.isZero
  | _ => none

/-- The digits of the word that an integer is stored as. -/
private def digitsOf (base : Nat) (n : Int64) : String := String.ofList (Nat.toDigits base n.toUInt64.toNat)

/-! ### Calls -/

/-- The functions over numbers. -/
def numeric? (name : String) (args : List Value) : Option (Except Fault Value) :=
  match name, args with
  | "abs", [.int n] => refused .int (abs n)
  | "abs", [.float x] => pure (.float x.abs)
  | "abs", [.dec d] => pure (.dec d.abs)
  | "min", [.arr items] => refused id (least items)
  | "max", [.arr items] => refused id (greatest items)
  | "min", [a, b] => (lesser? a b).map .ok
  | "max", [a, b] => (greater? a b).map .ok
  | "round", [.int n] => pure (.int n)
  | "round", [.float x] => refused .int (round x)
  | "round", [.int n, .int _] => pure (.int n)
  | "round", [.float x, .int places] => refused .float (roundTo x places)
  | "pow", [a, b] => power? a b
  | "sign", [v] => sign? v
  | "is_zero", [v] => (isZero? v).map fun b => .ok (.bool b)
  | "is_odd", [.int n] => pure (.bool (n % 2 != 0))
  | "is_even", [.int n] => pure (.bool (n % 2 == 0))
  | _, _ => none

/-- The functions that give a value in another kind. -/
def converted? (name : String) (args : List Value) : Option (Except Fault Value) :=
  match name, args with
  | "int", [v] => refused .int (toInt v)
  | "float", [v] => refused .float (toBinary64 v)
  | "decimal", [v] => refused .dec (toDecimal v)
  | "str", [v] => pure (.str v.text)
  | "bool", [v] => pure (.bool (truthy v))
  | "list", [] => pure (.arr [])
  | "list", [v] => refused .arr (toList v)
  | "dict", [] => pure (.map [])
  | "dict", [v] => refused .map (toMap v)
  | "to_string", [v] => pure (.str v.printed)
  | "to_debug", [v] => pure (.str (v.nestedText true))
  | "to_hex", [.int n] => pure (.str (digitsOf 16 n))
  | "to_octal", [.int n] => pure (.str (digitsOf 8 n))
  | "to_binary", [.int n] => pure (.str (digitsOf 2 n))
  | _, _ => none

/-- The functions over collections. -/
def gathered? (name : String) (args : List Value) : Option (Except Fault Value) :=
  match name, args with
  | "len", [v] => refused .int (length v)
  | "sum", [.arr items] => refused id (sum items)
  | "any", [.arr items] => pure (.bool (items.any truthy))
  | "all", [.arr items] => pure (.bool (items.all truthy))
  | "sorted", [.arr items] => refused .arr (sorted items false)
  | "sorted", [.arr items, .bool descending] => refused .arr (sorted items descending)
  | "enumerate", [.arr items] => pure (.arr (enumerate items))
  | "zip", [.arr as, .arr bs] => pure (.arr (zip as bs))
  | "contains", [.blob bytes, .int n] => pure (.bool (bytes.any fun b => (b.toNat : Int) == n.toInt))
  | _, _ => none

/-- The functions that are no methods of one kind of value. -/
def named? (name : String) (args : List Value) : Option (Except Fault Value) :=
  numeric? name args <|> converted? name args <|> gathered? name args <|> Ranges.call? name args

/-- A call that changes nothing. -/
def call? (name : String) (args : List Value) : Option (Except Fault Value) :=
  match named? name args with
  | some r => some r
  | none =>
    match args with
    | .str s :: rest => (Texts.call? name s rest).map .ok
    | .arr items :: rest => Arrays.call? name items rest
    | .map entries :: rest => (Maps.call? name entries rest).map .ok
    | [.char c] => (Texts.ofChar? name c).map .ok
    | _ => none

/-- A call that changes `object`: the new object, and the result of the call. -/
def update? (name : String) (object : Value) (args : List Value) : Option (Except Fault (Value × Value)) :=
  match object with
  | .str s => (Texts.update? name s args).map .ok
  | .arr items => (Arrays.update? name items args).map fun r => r.map fun (vs, v) => (.arr vs, v)
  | .map entries => (Maps.update? name entries args).map fun (es, v) => .ok (.map es, v)
  | .char c => if args.isEmpty then (Texts.updateChar? name c).map fun v => .ok (v, .unit) else none
  | _ => none

/-- The methods that may change an array. -/
private def arrayChanges : List String :=
  ["push", "append", "insert", "pad", "pop", "shift", "remove", "clear", "truncate", "chop", "reverse", "splice",
   "extract", "split", "for_each", "dedup", "sort", "drain", "retain", "set"]

private def mapChanges : List String := ["clear", "set", "remove", "mixin", "fill_with", "drain", "retain"]

private def textChanges : List String :=
  ["trim", "make_upper", "make_lower", "clear", "append", "set", "truncate", "crop", "pop", "remove", "replace", "pad"]

private def charChanges : List String := ["make_upper", "make_lower"]

/-- Whether a method may change its object, so that it cannot be called on a constant. -/
def mayChange (name : String) : Value → Bool
  | .arr _ => arrayChanges.contains name
  | .map _ => mapChanges.contains name
  | .str _ => textChanges.contains name
  | .char _ => charChanges.contains name
  | _ => false

/-- What a value that is no map has under a name. -/
def property? (name : String) (v : Value) : Option Value :=
  match name, v with
  | "len", .str s => some (.int (Int64.ofNat s.length))
  | "len", .arr items => some (.int (Int64.ofNat items.length))
  | "bytes", .str s => some (.int (Int64.ofNat s.utf8ByteSize))
  | "chars", .str s => some (.series (.chars s.toList))
  | "is_empty", .str s => some (.bool s.isEmpty)
  | "is_empty", .arr items => some (.bool items.isEmpty)
  | "is_zero", v => (isZero? v).map .bool
  | "is_odd", .int n => some (.bool (n % 2 != 0))
  | "is_even", .int n => some (.bool (n % 2 == 0))
  | "bits", .int n => some (Ranges.bitsOf n)
  | name, .range lo hi => Ranges.property? name lo hi false
  | name, .rangeIncl lo hi => Ranges.property? name lo hi true
  | _, _ => none

end Sandscript.Library

import Sandscript.Numeric.Tolerance
import Sandscript.Numeric.Word
import Sandscript.Run.Fault
import Sandscript.Syntax.Tree
import Sandscript.Text.Utf8

/-!
# Operators

What the operators of the language do to values.  Integers are exact or refused; an integer beside a floating-point
number or a decimal is converted, but decimals and floating-point numbers do not mix.  Floating-point numbers are
compared with a tolerance.  Values of different kinds are neither equal nor ordered.

Some operators are part of the language, others are functions of the library; a call of the latter takes a step of its
own.
-/

namespace Sandscript

open Numeric

namespace Value

/-! ### Equality and order -/

private def numericKind : Value → Bool
  | int _ | float _ | dec _ => true
  | _ => false

private def intText (n : Int64) : String := toString n.toInt

/-- The text of a string or a character. -/
private def textual? : Value → Option String
  | str s => some s
  | char c => some c.toString
  | _ => none

private def ofInt (n : Int64) : Binary64 := .ofInt n.toInt

mutual

/-- Equality, as the operator `==` sees it.  Some values cannot be compared with their own kind. -/
def equal : Value → Value → Except Fault Bool
  | unit, unit => .ok true
  | bool a, bool b => .ok (a == b)
  | int a, int b => .ok (a == b)
  | int a, float b => .ok ((ofInt a).isNear b)
  | float a, int b => .ok (a.isNear (ofInt b))
  | float a, float b => .ok (a.isNear b)
  | int a, dec b => .ok ((Decimal.ofInt64 a).eqv b)
  | dec a, int b => .ok (a.eqv (.ofInt64 b))
  | dec a, dec b => .ok (a.eqv b)
  | dec a, float b => .error (.noFunction "==" [dec a, float b])
  | float a, dec b => .error (.noFunction "==" [float a, dec b])
  | char a, char b => .ok (a == b)
  | str a, str b => .ok (a == b)
  | char a, str b => .ok (a.toString == b)
  | str a, char b => .ok (a == b.toString)
  | arr as, arr bs => if as.length = bs.length then equalItems as bs else .ok false
  | map as, map bs => if as.length = bs.length then equalEntries as bs else .ok false
  | blob a, blob b => .ok (a == b)
  | fn a h, fn b i => .error (.noFunction "==" [fn a h, fn b i])
  | range a b, range c d => .ok (a == c && b == d)
  | rangeIncl a b, rangeIncl c d => .ok (a == c && b == d)
  | a, b => if a.isForeign || b.isForeign then .error (.noFunction "==" [a, b]) else .ok false

/-- Equality of parts: kinds that do not mix are not equal. -/
def equalParts (a b : Value) : Except Fault Bool :=
  match equal a b with
  | .ok r => .ok r
  | .error e => if a.typeName == b.typeName then .error e else .ok false

def equalItems : List Value → List Value → Except Fault Bool
  | a :: as, b :: bs =>
    match equalParts a b with
    | .ok true => equalItems as bs
    | r => r
  | _, _ => .ok true

def equalEntries : List (String × Value) → List (String × Value) → Except Fault Bool
  | (k, a) :: as, bs =>
    match Fields.get? k bs with
    | none => .ok false
    | some b =>
      match equalParts a b with
      | .ok true => equalEntries as bs
      | r => r
  | [], _ => .ok true

end

/-- The numbers that are compared as floating-point numbers: one of them is one, the other may be an integer. -/
private def floatPair? : Value → Value → Option (Binary64 × Binary64)
  | int a, float b => some (ofInt a, b)
  | float a, int b => some (a, ofInt b)
  | float a, float b => some (a, b)
  | _, _ => none

def isContainer : Value → Bool
  | arr _ | map _ => true
  | _ => false

/-- What the operator `!=` says. -/
def unequal (a b : Value) : Except Fault Bool :=
  match floatPair? a b with
  | some (x, y) => .ok (x.isApart y)
  | none =>
    match a.equal b with
    | .ok r => .ok !r
    | .error e => .error (if a.isContainer then e else .noFunction "!=" [a, b])

/-- How two values that are no floating-point numbers stand to each other: in an order, or in none.  Some values
cannot be compared with their own kind, and ranges and series with no other value. -/
private def order? : Value → Value → Option (Option Ordering)
  | bool a, bool b => some (some (compare a.toNat b.toNat))
  | int a, int b => some (some (compare a.toInt b.toInt))
  | int a, dec b => some (some ((Decimal.ofInt64 a).compare b))
  | dec a, int b => some (some (a.compare (.ofInt64 b)))
  | dec a, dec b => some (some (a.compare b))
  | unit, unit => some none
  | a, b =>
    match textual? a, textual? b with
    | some s, some t => some (some (compare s t))
    | _, _ =>
      if a.typeName == b.typeName || (a.numericKind && b.numericKind) || a.isForeign || b.isForeign then none
      else some none

/-- Whether an order satisfies a comparison. -/
private def satisfies (op : BinaryOp) (o : Ordering) : Bool :=
  match op with
  | .lt => o == .lt
  | .le => o != .gt
  | .gt => o == .gt
  | .ge => o != .lt
  | _ => false

private def compareFloats (op : BinaryOp) (x y : Binary64) : Bool :=
  match op with
  | .lt => y.isAbove x
  | .le => y.isAtLeast x
  | .gt => x.isAbove y
  | .ge => x.isAtLeast y
  | _ => false

/-- What one of the operators `<`, `<=`, `>` and `>=` says. -/
def ordered (op : BinaryOp) (a b : Value) : Except Fault Bool :=
  match floatPair? a b with
  | some (x, y) => .ok (compareFloats op x y)
  | none =>
    match order? a b with
    | some o => .ok (o.any (satisfies op))
    | none => .error (.noFunction op.spelling [a, b])

/-! ### Texts -/

private def isPrefixAt (part : List Char) (cs : List Char) : Bool := part.isPrefixOf cs

/-- The number of characters before the first place where `part` stands in a text. -/
def indexOfChars? (part : List Char) : List Char → Option Nat
  | [] => if part.isEmpty then some 0 else none
  | c :: rest => if isPrefixAt part (c :: rest) then some 0 else (indexOfChars? part rest).map (· + 1)

/-- A text with every place of `part`, from the left, taken by `other`; `skip` characters of a place are left. -/
private def replaceFrom (part other : List Char) : Nat → List Char → List Char
  | _, [] => []
  | skip + 1, _ :: rest => replaceFrom part other skip rest
  | 0, c :: rest =>
    if isPrefixAt part (c :: rest) then other ++ replaceFrom part other (part.length - 1) rest
    else c :: replaceFrom part other 0 rest

/-- An empty part stands between any two characters and at both ends. -/
def replaceChars (part other cs : List Char) : List Char :=
  if part.isEmpty then other ++ cs.flatMap fun c => c :: other else replaceFrom part other 0 cs

private def without (s part : String) : Value :=
  if part.isEmpty then str s else str (String.ofList (replaceChars part.toList [] s.toList))

/-! ### Arithmetic -/

private def integers (op : BinaryOp) (x y : Int64) : Option (Except ArithmeticFault Int64) :=
  let checked : Option Int64 → Except ArithmeticFault Int64
    | some w => .ok w
    | none => .error (.overflow op (intText x) (intText y))
  match op with
  | .add => some (checked (word? (x.toInt + y.toInt)))
  | .sub => some (checked (word? (x.toInt - y.toInt)))
  | .mul => some (checked (word? (x.toInt * y.toInt)))
  | .div => some (if y = 0 then .error (.divisionByZero (intText x) (intText y)) else checked (quotient? x y))
  | .rem => some (checked (remainder? x y))
  | .pow =>
    some (if y < 0 then .error (.negativePower (intText x) (intText y))
      else checked (if 2 ^ 32 ≤ y.toInt then none else power? x y.toInt.toNat))
  | .shl => some (.ok (shiftLeft x y))
  | .shr => some (.ok (shiftRight x y))
  | .band => some (.ok (x &&& y))
  | .bor => some (.ok (x ||| y))
  | .bxor => some (.ok (x ^^^ y))
  | _ => none

private def floats (op : BinaryOp) (x y : Binary64) : Option Binary64 :=
  match op with
  | .add => some (x.add y)
  | .sub => some (x.sub y)
  | .mul => some (x.mul y)
  | .div => some (x.div y)
  | .rem => some (x.rem y)
  | .pow => some (x.pow y)
  | _ => none

private def decimals (op : BinaryOp) (x y : Decimal) : Option (Except ArithmeticFault Decimal) :=
  let checked : Option Decimal → Except ArithmeticFault Decimal
    | some d => .ok d
    | none => .error (.overflow op x.text y.text)
  match op with
  | .add => some (checked (x.add? y))
  | .sub => some (checked (x.sub? y))
  | .mul => some (checked (x.mul? y))
  | .div => some (if y.isZero then .error (.divisionByZero x.text y.text) else checked (x.div? y))
  | .rem => some (checked (if y.isZero then none else x.rem? y))
  | .pow => some (checked (x.pow? y))
  | _ => none

private def booleans (op : BinaryOp) (x y : Bool) : Option Bool :=
  match op with
  | .band => some (x && y)
  | .bor => some (x || y)
  | .bxor => some (x ^^ y)
  | _ => none

/-- The entries of two maps; those of the second win. -/
def mergeEntries (as bs : List (String × Value)) : List (String × Value) :=
  bs.foldl (fun es e => Fields.insert e.1 e.2 es) as

/-- The text that bytes stand for. -/
def decoded (bytes : List UInt8) : String := String.ofList (Text.Utf8.decode bytes)

/-- Addition of values that are no numbers, and subtraction of texts. -/
private def joined (op : BinaryOp) (a b : Value) : Option Value :=
  match op, a, b with
  | .add, char x, char y => some (str (String.ofList [x, y]))
  | .add, str x, blob y => some (str (x ++ decoded y))
  | .add, blob x, str y => some (str (decoded x ++ y))
  | .add, str x, y => some (str (x ++ y.printed))
  | .add, x, str y => some (str (x.printed ++ y))
  | .add, arr x, arr y => some (arr (x ++ y))
  | .add, map x, map y => some (map (mergeEntries x y))
  | .add, blob x, blob y => some (blob (x ++ y))
  | .sub, str x, str y => some (without x y)
  | .sub, str x, char y => some (without x y.toString)
  | _, _, _ => none

private def lift {α : Type} (f : α → Value) : Except ArithmeticFault α → Except Fault Value
  | .ok a => .ok (f a)
  | .error e => .error (.arithmetic e)

/-- The bound of a range that a value stands for; `()` leaves the range open. -/
private def bound? (open' : Int64) : Value → Option Int64
  | unit => some open'
  | int n => some n
  | _ => none

private def rangeOf (op : BinaryOp) (lo hi : Int64) : Value := if op = .range then range lo hi else rangeIncl lo hi

/-- The operators that compute; the result is absent where there is no such function. -/
private def computed (op : BinaryOp) (a b : Value) : Option (Except Fault Value) :=
  match a, b with
  | int x, int y =>
    match op with
    | .range | .rangeIncl => some (.ok (rangeOf op x y))
    | _ => (integers op x y).map (lift int)
  | int x, float y => (floats op (ofInt x) y).map fun r => .ok (float r)
  | float x, int y => (floats op x (ofInt y)).map fun r => .ok (float r)
  | float x, float y => (floats op x y).map fun r => .ok (float r)
  | int x, dec y => (decimals op (.ofInt64 x) y).map (lift dec)
  | dec x, int y => (decimals op x (.ofInt64 y)).map (lift dec)
  | dec x, dec y => (decimals op x y).map (lift dec)
  | bool x, bool y => (booleans op x y).map fun r => .ok (bool r)
  | x, y =>
    match op, bound? 0 x, bound? Int64.maxValue y with
    | .range, some lo, some hi | .rangeIncl, some lo, some hi => some (.ok (rangeOf op lo hi))
    | _, _, _ => (joined op x y).map .ok

/-! ### Membership -/

/-- Whether one of some items equals a value. -/
def containsItem (v : Value) : List Value → Except Fault Bool
  | [] => .ok false
  | a :: rest =>
    match equalParts a v with
    | .ok false => containsItem v rest
    | r => r

end Value

namespace BinaryOp

private def isArithmetic : BinaryOp → Bool
  | add | sub | mul | div | rem | pow => true
  | _ => false

private def isLogical : BinaryOp → Bool
  | band | bor | bxor => true
  | _ => false

private def comparesBuiltIn (op : BinaryOp) (a b : Value) : Bool :=
  match a, b with
  | .range .., .range .. | .rangeIncl .., .rangeIncl .. | .blob _, .blob _ => op = .eq || op = .ne
  | .arr _, .arr _ | .map _, .map _ | .fn .., .fn .. | .dec _, .float _ | .float _, .dec _ => false
  | a, b => !a.isForeign && !b.isForeign

/-- Whether the operator is part of the language for operands of these kinds. -/
def isBuiltIn (op : BinaryOp) (a b : Value) : Bool :=
  match op with
  | .eq | .ne | .lt | .le | .gt | .ge => op.comparesBuiltIn a b
  | .range | .rangeIncl => true
  | _ =>
    match a, b with
    | .int _, .int _ => true
    | .int _, .float _ | .float _, .int _ | .float _, .float _ | .int _, .dec _ | .dec _, .int _ | .dec _, .dec _ =>
      op.isArithmetic
    | .bool _, .bool _ => op.isLogical
    | .str _, .str _ | .str _, .char _ => op = .add || op = .sub
    | .char _, .char _ | .char _, .str _ | .blob _, .blob _ => op = .add
    | _, _ => false

/-- The calls that an assignment with the operator takes: none if it is part of the language, one if the library has
it, and one more if it has to make do with the operator without the assignment. -/
def assignCalls (op : BinaryOp) (a b : Value) : Nat :=
  let builtIn : Bool := match a, b with
    | .int _, .int _ => true
    | .float _, .float _ | .float _, .int _ | .dec _, .dec _ | .dec _, .int _ => op.isArithmetic
    | .bool _, .bool _ => op.isLogical
    | .str _, .str _ | .str _, .char _ => op = .add || op = .sub
    | .char _, .char _ | .char _, .str _ | .arr _, _ => op = .add
    | .blob _, .blob _ | .blob _, .int _ | .blob _, .char _ | .blob _, .str _ => op = .add
    | _, _ => false
  let inLibrary : Bool := match a, b with
    | .str _, _ | .map _, .map _ => op = .add
    | _, _ => false
  if builtIn then 0 else if inLibrary then 1 else 2

/-- The result of an operator; the operators that do not always look at both operands are none of its concern. -/
def apply (op : BinaryOp) (a b : Value) : Except Fault Value :=
  match op with
  | .eq => (a.equal b).map .bool
  | .ne => (a.unequal b).map .bool
  | .lt | .le | .gt | .ge => (Value.ordered op a b).map .bool
  | _ => (Value.computed op a b).getD (.error (.noFunction op.spelling [a, b]))

/-- The new value of what stands left of `=` with an operator.  An array takes a value that is no array as a new
item, a text takes the text of any value, and bytes take the bytes of a text. -/
def applyAssign (op : BinaryOp) (a b : Value) : Except Fault Value :=
  match op, a, b with
  | .add, .arr xs, .arr ys => .ok (.arr (xs ++ ys))
  | .add, .arr xs, y => .ok (.arr (xs ++ [y]))
  | .add, .blob xs, .int n => .ok (.blob (xs ++ [n.toUInt64.toUInt8]))
  | .add, .blob xs, .char c => .ok (.blob (xs ++ c.toString.toUTF8.toList))
  | .add, .blob xs, .str s => .ok (.blob (xs ++ s.toUTF8.toList))
  | op, a, b => op.apply a b

end BinaryOp

namespace UnaryOp

/-- Whether the operator is part of the language for an operand of this kind. -/
def isBuiltIn : UnaryOp → Value → Bool
  | .not, .bool _ => true
  | _, _ => false

def apply (op : UnaryOp) (v : Value) : Except Fault Value :=
  match op, v with
  | .plus, .int n => .ok (.int n)
  | .plus, .float x => .ok (.float x)
  | .plus, .dec d => .ok (.dec d)
  | .minus, .int n =>
    match word? (-n.toInt) with
    | some w => .ok (.int w)
    | none => .error (.arithmetic .negation)
  | .minus, .float x => .ok (.float x.neg)
  | .minus, .dec d => .ok (.dec d.neg)
  | .not, .bool b => .ok (.bool !b)
  | op, v => .error (.noFunction op.spelling [v])

end UnaryOp

end Sandscript

import Sandscript.Numeric.Rounding

/-!
# Floating-point numbers

A 64-bit binary floating-point number is held as its bit pattern, so that equality tells `0.0` from `-0.0` and keeps
the sign of a NaN.  A finite number is `significand · 2 ^ scale` up to its sign.  Conversions from integers, decimal
texts and quotients round exactly once, to the nearest number, with ties to even; so does every arithmetic
operation.
-/

namespace Sandscript

open Numeric

structure Binary64 where
  bits : UInt64
deriving DecidableEq, Inhabited, Repr

namespace Binary64

/-! ### The parts of a number -/

def isNegative (x : Binary64) : Bool := 2 ^ 63 ≤ x.bits.toNat

/-- The bit pattern without the sign; it orders the magnitudes. -/
def absWord (x : Binary64) : Nat := x.bits.toNat % 2 ^ 63

def infinityWord : Nat := 0x7FF0000000000000

def isNaN (x : Binary64) : Bool := infinityWord < x.absWord
def isInfinite (x : Binary64) : Bool := x.absWord == infinityWord
def isFinite (x : Binary64) : Bool := x.absWord < infinityWord
def isZero (x : Binary64) : Bool := x.absWord == 0

theorem isNaN_of_isFinite {x : Binary64} (h : x.isFinite = true) : x.isNaN = false :=
  decide_eq_false (Nat.lt_asymm (of_decide_eq_true h))

theorem isInfinite_of_isFinite {x : Binary64} (h : x.isFinite = true) : x.isInfinite = false :=
  beq_eq_false_iff_ne.2 (Nat.ne_of_lt (of_decide_eq_true h))

def ofWord (negative : Bool) (word : Nat) : Binary64 :=
  ⟨UInt64.ofNat (if negative then 2 ^ 63 + word else word)⟩

def significand (x : Binary64) : Nat :=
  if x.absWord / 2 ^ 52 = 0 then x.absWord else 2 ^ 52 + x.absWord % 2 ^ 52

def scale (x : Binary64) : Int := ((max (x.absWord / 2 ^ 52) 1 : Nat) : Int) - 1075

def zero : Binary64 := ⟨0⟩
def negativeZero : Binary64 := ofWord true 0
def infinity : Binary64 := ofWord false infinityWord

/-- The NaN that constants and texts denote. -/
def nan : Binary64 := ofWord false 0x7FF8000000000000

/-- The NaN of an operation that has no result. -/
def invalid : Binary64 := ofWord true 0x7FF8000000000000

/-! ### Rounding -/

/-- Two to the power `e`, as a quotient. -/
def twoPow (e : Int) : Nat × Nat := if 0 ≤ e then (2 ^ e.toNat, 1) else (1, 2 ^ (-e).toNat)

/-- The exponent of the leading binary digit of `num / den`. -/
def leadingExponent (num den : Nat) : Int :=
  let e : Int := (num.log2 : Int) - den.log2
  let p := twoPow e
  if den * p.1 ≤ num * p.2 then e else e - 1

/-- The magnitude nearest to `num / den`. -/
def roundWord (num den : Nat) : Nat :=
  if num = 0 then 0
  else
    let unit := max (leadingExponent num den - 52) (-1074)
    let p := twoPow unit
    min infinityWord ((unit + 1074).toNat * 2 ^ 52 + divRound (num * p.2) (den * p.1))

def ofRatio (negative : Bool) (num den : Nat) : Binary64 := ofWord negative (roundWord num den)

def ofInt (n : Int) : Binary64 := ofRatio (n < 0) n.natAbs 1

/-- The number nearest to `coefficient · 10 ^ exponent`. -/
def ofScaled (negative : Bool) (coefficient : Nat) (exponent : Int) : Binary64 :=
  let size := (digitCount coefficient : Int) + exponent
  if coefficient = 0 ∨ size < -330 then ofWord negative 0
  else if 310 < size then ofWord negative infinityWord
  else if 0 ≤ exponent then ofRatio negative (coefficient * 10 ^ exponent.toNat) 1
  else ofRatio negative coefficient (10 ^ (-exponent).toNat)

/-- The number `± m · 2 ^ e`, rounded. -/
def ofDyadic (negative : Bool) (m : Nat) (e : Int) : Binary64 :=
  let p := twoPow e
  ofRatio negative (m * p.1) p.2

/-! ### Order -/

/-- A key that orders all numbers but NaN; both zeros have the key zero. -/
def key (x : Binary64) : Int := if x.isNegative then -(x.absWord : Int) else x.absWord

def lt (x y : Binary64) : Bool := !x.isNaN && !y.isNaN && x.key < y.key
def le (x y : Binary64) : Bool := !x.isNaN && !y.isNaN && x.key ≤ y.key

/-- Numerical equality: the zeros are equal, and a NaN equals nothing. -/
def eqv (x y : Binary64) : Bool := !x.isNaN && !y.isNaN && x.key == y.key

/-- A key of the total order, in which `-0.0` comes before `0.0` and NaNs stand at the ends by their sign. -/
def totalKey (x : Binary64) : Int := if x.isNegative then -(x.absWord : Int) - 1 else x.absWord

/-- The smaller of two numbers; a NaN gives way, and of equal numbers the first is taken. -/
def lesser (x y : Binary64) : Binary64 := if x.isNaN then y else if lt y x then y else x

/-- The larger of two numbers; a NaN gives way, and of equal numbers the first is taken. -/
def greater (x y : Binary64) : Binary64 := if x.isNaN then y else if lt x y then y else x

/-! ### Arithmetic -/

def toFloat (x : Binary64) : Float := Float.ofBits x.bits

/-- The result of an operation on one number; a NaN passes through. -/
def map (f : Float → Float) (x : Binary64) : Binary64 :=
  let r := f x.toFloat
  if r.isNaN then (if x.isNaN then x else invalid) else ⟨r.toBits⟩

/-- The result of an operation on two numbers; of NaN operands the first passes through. -/
def map₂ (f : Float → Float → Float) (x y : Binary64) : Binary64 :=
  let r := f x.toFloat y.toFloat
  if r.isNaN then (if x.isNaN then x else if y.isNaN then y else invalid) else ⟨r.toBits⟩

def add (x y : Binary64) : Binary64 := map₂ (· + ·) x y
def sub (x y : Binary64) : Binary64 := map₂ (· - ·) x y
def mul (x y : Binary64) : Binary64 := map₂ (· * ·) x y
def div (x y : Binary64) : Binary64 := map₂ (· / ·) x y
def sqrt (x : Binary64) : Binary64 := map Float.sqrt x
def pow (x y : Binary64) : Binary64 := map₂ Float.pow x y

def neg (x : Binary64) : Binary64 := ofWord (!x.isNegative) x.absWord
def abs (x : Binary64) : Binary64 := ofWord false x.absWord

/-- The remainder of the division that goes toward zero; it has the sign of the dividend. -/
def rem (x y : Binary64) : Binary64 :=
  if x.isNaN then x
  else if y.isNaN then y
  else if x.isInfinite || y.isZero then invalid
  else if y.isInfinite then x
  else
    let s := if x.scale ≤ y.scale then x.scale else y.scale
    let a := x.significand * 2 ^ (x.scale - s).toNat
    let b := y.significand * 2 ^ (y.scale - s).toNat
    ofDyadic x.isNegative (a % b) s

/-- The length of the hypotenuse over two sides. -/
def hypot (x y : Binary64) : Binary64 :=
  if x.isInfinite || y.isInfinite then infinity
  else if x.isNaN then x
  else if y.isNaN then y
  else
    let s := if x.scale ≤ y.scale then x.scale else y.scale
    let a := x.significand * 2 ^ (x.scale - s).toNat
    let b := y.significand * 2 ^ (y.scale - s).toNat
    let n := (a * a + b * b) * 4 ^ 60
    let r := floorRoot n
    if r * r = n then ofDyadic false r (s - 60) else ofDyadic false (2 * r + 1) (s - 61)

private def powSteps : Nat → Nat → Binary64 → Binary64 → Binary64
  | 0, _, _, r => r
  | k + 1, n, x, r =>
    let r := if n % 2 = 1 then mul r x else r
    if n / 2 = 0 then r else powSteps k (n / 2) (mul x x) r

/-- An integer power by repeated squaring; for a negative exponent the reciprocal is taken at the end. -/
def powInt (x : Binary64) (n : Int) : Binary64 :=
  let r := powSteps (n.natAbs + 1) n.natAbs x (ofInt 1)
  if n < 0 then div (ofInt 1) r else r

/-! ### Whole numbers -/

/-- The magnitude of a finite number as a quotient. -/
def magnitude (x : Binary64) : Nat × Nat :=
  let p := twoPow x.scale
  (x.significand * p.1, p.2)

/-- The whole part of a finite number, toward zero. -/
def truncated (x : Binary64) : Int :=
  let m : Int := (x.magnitude.1 / x.magnitude.2 : Nat)
  if x.isNegative then -m else m

/-- Replaces the magnitude of a finite number; other numbers and the sign stay. -/
private def mapMagnitude (f : Nat → Nat → Nat) (x : Binary64) : Binary64 :=
  if x.isFinite then ofRatio x.isNegative (f x.magnitude.1 x.magnitude.2) 1 else x

private def divUp (n d : Nat) : Nat := (n + d - 1) / d

def trunc (x : Binary64) : Binary64 := mapMagnitude (· / ·) x
def roundEven (x : Binary64) : Binary64 := mapMagnitude divRound x

/-- Rounds to a whole number; a half goes away from zero. -/
def roundUp (x : Binary64) : Binary64 := mapMagnitude divRoundUp x

def floor (x : Binary64) : Binary64 := mapMagnitude (if x.isNegative then divUp else (· / ·)) x
def ceil (x : Binary64) : Binary64 := mapMagnitude (if x.isNegative then (· / ·) else divUp) x

end Binary64

end Sandscript

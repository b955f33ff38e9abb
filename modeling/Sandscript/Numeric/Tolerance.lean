import Sandscript.Numeric.Binary64

/-!
# Comparison with a tolerance

Floating-point numbers that were computed in different ways seldom agree in their last digits.  Here two numbers count
as equal when they differ by no more than the distance from one to the next number, taken in proportion to the larger
of the two; beside a zero the distance itself is taken.  A number is above another when it exceeds it by more than
that.  Nothing holds of a NaN, not even that it differs from another number.
-/

namespace Sandscript.Binary64

/-- The distance from one to the next number. -/
def epsilon : Binary64 := ofDyadic false 1 (-52)

/-- How far two numbers may lie apart and still count as equal. -/
def tolerance (x y : Binary64) : Binary64 :=
  let extent := if (x.mul y).isZero then ofInt 1 else x.abs.greater y.abs
  extent.mul epsilon

/-- How far `x` lies above `y`. -/
private def lead (x y : Binary64) : Binary64 := x.sub y

def isNear (x y : Binary64) : Bool := (lead x y).abs.le (tolerance x y)

def isApart (x y : Binary64) : Bool := (tolerance x y).lt (lead x y).abs

def isAbove (x y : Binary64) : Bool := (tolerance x y).lt (lead x y)

/-- Above or near. -/
def isAtLeast (x y : Binary64) : Bool := (tolerance x y).neg.lt (lead x y)

end Sandscript.Binary64

import Sandscript.Numeric.Decimal

/-!
# Powers of decimals

A power with a whole exponent is built from squares, one for every binary digit of the exponent.  Any other power is
`exp (b · ln a)`.  Both functions take powers of `e` out first: the logarithm is that of a number between `1 / e` and
one, the exponential that of a number between minus one and zero.  Their series are summed in decimals, so the last
places carry the errors of rounding that the order of the operations gives them.
-/

namespace Sandscript

namespace Decimal

/-! ### Whole exponents -/

/-- `r · d ^ n`, by the binary digits of `n` from the lowest on; `n` has at most as many as the first argument. -/
private def powTimes? : Nat → Decimal → Nat → Decimal → Option Decimal
  | 0, _, _, r => some r
  | k + 1, d, n, r =>
    (if n % 2 = 1 then r.mul? d else some r).bind fun r =>
      if n / 2 = 0 then some r else (d.mul? d).bind fun square => powTimes? k square (n / 2) r

/-- The power with a count.  From the third power on it has no zeros at the end. -/
def powNat? (d : Decimal) : Nat → Option Decimal
  | 0 => some one
  | 1 => some d
  | 2 => d.mul? d
  | n => (powTimes? (n.log2 + 1) d n one).map normalized

/-- A negative exponent takes the power out of one. -/
def powInt? (d : Decimal) (n : Int) : Option Decimal :=
  if n < 0 then (d.powNat? n.natAbs).bind one.div? else d.powNat? n.toNat

/-! ### Exponential and logarithm -/

/-- The number `e` with 28 places. -/
def e : Decimal := ⟨false, 27182818284590452353602874714, 28, by decide, by decide⟩

/-- The number `1 / e` with 28 places. -/
def eInverse : Decimal := ⟨false, 3678794411714423215955237702, 28, by decide, by decide⟩

private def isAtLeast (a b : Decimal) : Bool := a.compare b != .lt

/-- `y = x / e ^ n`, with `n` counted up until it is below one. -/
private def scaleDown (x : Decimal) : Nat → Int → Decimal → Option (Int × Decimal)
  | 0, _, _ => none
  | k + 1, n, y =>
    if y.isAtLeast one then ((e.powInt? (-(n + 1))).bind x.mul?).bind (scaleDown x k (n + 1)) else some (n, y)

/-- `y = x / e ^ n`, with `n` counted down until it is above `1 / e`. -/
private def scaleUp (x : Decimal) : Nat → Int → Decimal → Option (Int × Decimal)
  | 0, _, _ => none
  | k + 1, n, y =>
    if eInverse.isAtLeast y then ((e.powInt? (-(n - 1))).bind x.mul?).bind (scaleUp x k (n - 1)) else some (n, y)

/-- `∑ w ^ n / n` from the `n` given on, until nothing is added. -/
private def logSum (w : Decimal) : Nat → Nat → Decimal → Decimal → Option Decimal
  | 0, _, _, sum => some sum
  | k + 1, n, power, sum => do
    let power ← power.mul? w
    let next ← sum.add? (← power.div? (← ofNat? n))
    if next.eqv sum then some next else logSum w k (n + 1) power next

/-- The logarithm of a positive number, with a hundred terms of `ln (1 - w) = -∑ w ^ n / n` at most. -/
def ln? (x : Decimal) : Option Decimal := do
  let (n, y) ← scaleDown x 100 0 x
  let (n, y) ← scaleUp x 100 n y
  let sum ← logSum (← one.sub? y) 100 1 one zero
  let whole ← ofParts? (n < 0) n.natAbs 0
  whole.sub? sum

/-- `p · (1 + f / 1 · (1 + f / 2 · (…)))` with `k` factors. -/
private def expSum (p f : Decimal) : Nat → Decimal → Option Decimal
  | 0, r => some r
  | k + 1, r => do expSum p f k (← p.add? (← f.mul? (← r.div? (← ofNat? (k + 1)))))

/-- The exponential: `e ^ x = e ^ n · e ^ (x - n)` with the least whole number `n` that is not below `x`. -/
def exp? (x : Decimal) : Option Decimal := do
  let n := x.ceiling
  let f ← x.sub? (← ofParts? (n < 0) n.natAbs 0)
  let p ← e.powInt? n
  expSum p f 28 p

/-- A power with an exponent that is not whole; it has the sign of the base. -/
def powReal? (a b : Decimal) : Option Decimal := do
  let r ← exp? (← (← ln? a.abs).mul? b)
  some { r with negative := a.negative }

/-- The power with an exponent near to a count of at most a million. -/
def pow? (a b : Decimal) : Option Decimal :=
  if (b.negative && b.nearest != 0) || 1000000 < b.nearest then none
  else if b.isZero then some one
  else if a.isZero then some zero
  else if a.isOne then some one
  else if b.isOne then some a
  else if b.isWhole then a.powNat? b.truncated.toNat
  else powReal? a b

end Decimal

end Sandscript

import Sandscript.Numeric.Power

/-!
# Rounding quotients

Exact arithmetic on quotients of natural numbers: the nearest integer, with a half going to the even neighbour, the
integer square root, and decimal digits.
-/

namespace Sandscript.Numeric

/-- The integer nearest to `num / den`; a half goes to the even neighbour. -/
def divRound (num den : Nat) : Nat :=
  if 2 * (num % den) < den ∨ (2 * (num % den) = den ∧ num / den % 2 = 0) then num / den else num / den + 1

/-- The integer nearest to `num / den`; a half goes up. -/
def divRoundUp (num den : Nat) : Nat :=
  if 2 * (num % den) < den then num / den else num / den + 1

private def rootSteps (n : Nat) : Nat → Nat → Nat
  | 0, r => r
  | k + 1, r =>
    let s := (r + n / r) / 2
    if s < r then rootSteps n k s else r

/-- The largest integer whose square is at most `n`. -/
def floorRoot (n : Nat) : Nat :=
  if n = 0 then 0 else rootSteps n (n.log2 + 2) (2 ^ (n.log2 / 2 + 1))

/-- The decimal digits of a number, most significant first. -/
def digits (n : Nat) : List Char := Nat.toDigits 10 n

/-- The number of decimal digits; zero has one. -/
def digitCount (n : Nat) : Nat := (digits n).length

def digitValue (c : Char) : Nat := c.toNat - 48

def ofDigits (cs : List Char) : Nat := cs.foldl (fun n c => 10 * n + digitValue c) 0

def dropZerosFrom : Nat → Nat → Int → Nat × Int
  | 0, c, e => (c, e)
  | k + 1, c, e => if c % 10 = 0 then dropZerosFrom k (c / 10) (e + 1) else (c, e)

/-- `c · 10 ^ e` with a coefficient that does not end in a zero. -/
def dropZeros (c : Nat) (e : Int) : Nat × Int := if c = 0 then (0, e) else dropZerosFrom c.log2 c e

end Sandscript.Numeric

import Sandscript.Numeric.Power

/-!
# Arithmetic on 64-bit integers

An operation is carried out exactly and refused when its result does not fit.  Shifts by a negative amount go the
other way, and bits shifted out are lost.
-/

namespace Sandscript.Numeric

/-- The word that stands for an integer, if there is one. -/
def word? (n : Int) : Option Int64 :=
  if -(2 ^ 63) ≤ n ∧ n < 2 ^ 63 then some (Int64.ofInt n) else none

theorem word?_eq_none_iff {n : Int} : word? n = none ↔ ¬ (-(2 ^ 63) ≤ n ∧ n < 2 ^ 63) := by
  unfold word?
  split <;> simp_all

theorem toInt_of_word? {n : Int} {w : Int64} (h : word? n = some w) : w.toInt = n := by
  unfold word? at h
  split at h
  · cases h
    exact Int64.toInt_ofInt_of_le (by omega) (by omega)
  · cases h

theorem word?_toInt (w : Int64) : word? w.toInt = some w := by
  have h₁ := w.le_toInt
  have h₂ := w.toInt_lt
  unfold word?
  rw [if_pos (by omega), Int64.ofInt_toInt]

/-- `b ^ e`, if it fits.  Only 0, 1 and -1 have large powers that fit. -/
def power? (b : Int64) (e : Nat) : Option Int64 :=
  if b.toInt.natAbs ≤ 1 then word? (b.toInt ^ (if e = 0 then 0 else 2 - e % 2))
  else if 64 ≤ e then none
  else word? (b.toInt ^ e)

/-- The quotient toward zero by a number that is not zero, if it fits. -/
def quotient? (a b : Int64) : Option Int64 := word? (Int.tdiv a.toInt b.toInt)

/-- The remainder of the quotient toward zero.  There is none where there is no quotient. -/
def remainder? (a b : Int64) : Option Int64 :=
  if b = 0 then none
  else (quotient? a b).bind fun _ => word? (Int.tmod a.toInt b.toInt)

private def shiftBy (x n : Int) : Int64 :=
  if 64 ≤ n then 0
  else if n ≤ -64 then (if x < 0 then -1 else 0)
  else if 0 ≤ n then Int64.ofInt (x * 2 ^ n.toNat)
  else Int64.ofInt (x / 2 ^ (-n).toNat)

def shiftLeft (x n : Int64) : Int64 := shiftBy x.toInt n.toInt

def shiftRight (x n : Int64) : Int64 := shiftBy x.toInt (-n.toInt)

/-- Bit `i` of a word, counted from the lowest. -/
def bit (x : Int64) (i : Nat) : Bool := x.toUInt64.toNat.testBit i

/-- The word with bit `i` set to `b`. -/
def withBit (x : Int64) (i : Nat) (b : Bool) : Int64 :=
  let mask : Int64 := Int64.ofNat (2 ^ i)
  if b then x ||| mask else x &&& ~~~mask

end Sandscript.Numeric

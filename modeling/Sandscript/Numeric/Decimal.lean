import Sandscript.Numeric.Shortest

/-!
# Decimal numbers

A decimal is `± coefficient / 10 ^ scale` with a coefficient below `2 ^ 96` and at most 28 places.  The scale is part
of the value: `1.50` and `1.5` are equal numbers with different texts.  A result that needs more digits than there
are is rounded to the most places that fit, and refused when its whole part does not fit.
-/

namespace Sandscript

open Numeric

structure Decimal where
  negative : Bool
  coefficient : Nat
  scale : Nat
  coefficient_lt : coefficient < 2 ^ 96
  scale_le : scale ≤ 28
deriving DecidableEq, Repr

namespace Decimal

def zero : Decimal := ⟨false, 0, 0, by decide, by decide⟩

def one : Decimal := ⟨false, 1, 0, by decide, by decide⟩

instance : Inhabited Decimal := ⟨zero⟩

/-- The decimal with these parts, if they are in range; a zero has no sign. -/
def ofParts? (negative : Bool) (coefficient scale : Nat) : Option Decimal :=
  if h : coefficient < 2 ^ 96 ∧ scale ≤ 28 then some ⟨negative && coefficient != 0, coefficient, scale, h.1, h.2⟩
  else none

def isZero (d : Decimal) : Bool := d.coefficient == 0

/-- Whether this is the number one, whatever the places. -/
def isOne (d : Decimal) : Bool := !d.negative && d.coefficient == 10 ^ d.scale

/-- The coefficient with its sign. -/
def signed (d : Decimal) : Int := if d.negative then -(d.coefficient : Int) else d.coefficient

/-! ### Integers -/

theorem natAbs_lt_of_int64 (n : Int64) : n.toInt.natAbs < 2 ^ 96 := by
  have h₁ := n.toInt_lt
  have h₂ := n.le_toInt
  omega

def ofInt64 (n : Int64) : Decimal :=
  ⟨n.toInt < 0, n.toInt.natAbs, 0, natAbs_lt_of_int64 n, by decide⟩

def ofNat? (n : Nat) : Option Decimal := ofParts? false n 0

/-- The whole part, toward zero. -/
def truncated (d : Decimal) : Int :=
  let m : Int := (d.coefficient / 10 ^ d.scale : Nat)
  if d.negative then -m else m

def isWhole (d : Decimal) : Bool := d.coefficient % 10 ^ d.scale == 0

/-- The whole number nearest to the absolute value; a half goes to the even neighbour. -/
def nearest (d : Decimal) : Nat := divRound d.coefficient (10 ^ d.scale)

/-- The least whole number that is not below. -/
def ceiling (d : Decimal) : Int :=
  if d.negative then -((d.coefficient / 10 ^ d.scale : Nat) : Int)
  else ((d.coefficient + 10 ^ d.scale - 1) / 10 ^ d.scale : Nat)

/-- The same number without zeros at the end. -/
def normalized (d : Decimal) : Decimal :=
  let (c, e) := dropZeros d.coefficient (-d.scale)
  if d.isZero then zero
  else (ofParts? d.negative (if 0 ≤ e then c * 10 ^ e.toNat else c) (-e).toNat).getD d

/-! ### Text -/

/-- The text with exactly `scale` places. -/
def chars (d : Decimal) : List Char :=
  let ds := digits d.coefficient
  let padded := List.replicate (d.scale + 1 - ds.length) '0' ++ ds
  let whole := padded.take (padded.length - d.scale)
  let places := padded.drop (padded.length - d.scale)
  (if d.negative then ['-'] else []) ++ whole ++ (if d.scale = 0 then [] else '.' :: places)

def text (d : Decimal) : String := String.ofList d.chars

/-! ### Arithmetic -/

/-- `± coefficient / 10 ^ scale` with the most places that fit, rounded with ties to even; `k` more places may be
dropped. -/
private def fitDropping (negative : Bool) (coefficient scale : Nat) : Nat → Option Decimal
  | 0 => ofParts? negative (divRound coefficient (10 ^ scale)) 0
  | k + 1 =>
    match ofParts? negative (divRound coefficient (10 ^ (scale - (k + 1)))) (k + 1) with
    | some d => some d
    | none => fitDropping negative coefficient scale k

def fit? (negative : Bool) (coefficient scale : Nat) : Option Decimal :=
  fitDropping negative coefficient scale (min scale 28)

private def ofSigned? (n : Int) (scale : Nat) : Option Decimal := fit? (n < 0) n.natAbs scale

/-- The coefficient at a finer scale. -/
def signedAt (d : Decimal) (scale : Nat) : Int := d.signed * (10 ^ (scale - d.scale) : Nat)

def neg (d : Decimal) : Decimal := { d with negative := !d.negative }

def abs (d : Decimal) : Decimal := { d with negative := false }

/-- The sum.  Adding zero changes nothing, not even the places. -/
def add? (a b : Decimal) : Option Decimal :=
  if a.isZero then some b
  else if b.isZero then some a
  else
    let s := max a.scale b.scale
    ofSigned? (signedAt a s + signedAt b s) s

/-- The difference.  Adding or taking zero changes no places. -/
def sub? (a b : Decimal) : Option Decimal :=
  if a.isZero then some (if b.isZero then b else b.neg)
  else if b.isZero then some a
  else
    let s := max a.scale b.scale
    ofSigned? (signedAt a s - signedAt b s) s

/-- The product of two coefficients of one word with so many places that nothing is left of it. -/
private def vanishes (a b : Decimal) : Bool :=
  a.coefficient < 2 ^ 32 && b.coefficient < 2 ^ 32 && 47 < a.scale + b.scale

/-- The product.  A product that vanishes is a zero without places. -/
def mul? (a b : Decimal) : Option Decimal :=
  if a.isZero || b.isZero || vanishes a b then some zero else ofSigned? (a.signed * b.signed) (a.scale + b.scale)

/-! #### Long division

Places are added to a quotient up to nine at a time while something is left over.  If it came to that, zeros are taken
off again: eight at a time from a coefficient whose low word is zero, and then four, two and one.  So a quotient may
end in a zero. -/

/-- A quotient on the way: the coefficient, what is left over, and the scale. -/
private structure Quotient where
  coefficient : Nat
  rest : Nat
  scale : Int

namespace Quotient

private def size : Nat := 2 ^ 96

/-- How many places can be added at once. -/
private def room (q : Quotient) : Nat :=
  (List.range (min 9 (28 - q.scale).toNat + 1)).foldl
    (fun most p => if q.coefficient * 10 ^ p < size then p else most) 0

/-- A coefficient that has grown beyond the largest one gives its last place up. -/
private def narrow (q : Quotient) : Option Quotient :=
  if q.coefficient < size then some q
  else if q.scale < 1 then none
  else
    let c := q.coefficient / 10
    let last := q.coefficient % 10
    let up := 5 < last || (last == 5 && (q.rest != 0 || c % 2 == 1))
    some { q with coefficient := if up then c + 1 else c, scale := q.scale - 1 }

/-- Rounds what is left over, a half to the even neighbour. -/
private def round (den : Nat) (q : Quotient) : Option Quotient :=
  let up := den < 2 * q.rest || (2 * q.rest == den && q.coefficient % 2 == 1)
  narrow { q with coefficient := if up then q.coefficient + 1 else q.coefficient }

private def dropPlaces (p : Nat) (q : Quotient) : Quotient :=
  if (p : Int) ≤ q.scale && q.coefficient % 10 ^ p == 0 then
    { q with coefficient := q.coefficient / 10 ^ p, scale := q.scale - p }
  else q

private def dropEights : Nat → Quotient → Quotient
  | 0, q => q
  | n + 1, q => if q.coefficient % 2 ^ 32 == 0 then dropEights n (q.dropPlaces 8) else q

private def shorten (q : Quotient) : Quotient := (((q.dropEights 4).dropPlaces 4).dropPlaces 2).dropPlaces 1

/-- Adds places until nothing is left over or no more places fit. -/
private def extend (den : Nat) : Nat → Quotient → Option Quotient
  | 0, _ => none
  | n + 1, q =>
    if q.rest = 0 && 0 ≤ q.scale then some q
    else
      let p := if q.rest = 0 then min 9 (-q.scale).toNat else q.room
      if p < 9 && q.scale + p < 0 && q.rest != 0 then none
      else if p = 0 then q.round den
      else
        let grown := q.coefficient * 10 ^ p
        let rest := q.rest * 10 ^ p
        let next : Quotient := { coefficient := grown + rest / den, rest := rest % den, scale := q.scale + p }
        if size ≤ grown then none
        else if size ≤ next.coefficient then next.narrow
        else extend den n next

end Quotient

/-- The quotient by a number that is not zero: the places of the operands if they suffice, else as many as it
takes. -/
def div? (a b : Decimal) : Option Decimal :=
  if a.isZero then some zero
  else
    let den := b.coefficient
    let start : Quotient := ⟨a.coefficient / den, a.coefficient % den, (a.scale : Int) - b.scale⟩
    (start.extend den 64).bind fun q =>
      let q := if start.rest = 0 then q else q.shorten
      ofParts? (a.negative != b.negative && q.coefficient != 0) q.coefficient q.scale.toNat

/-! #### Remainders

A divisor of at most two words of 32 bits leaves the exact remainder.  By a longer one the dividend is divided word by
word: the divisor is moved up until its highest bit is set, and each word of the quotient is estimated from the highest
word of the divisor.  The estimate is a word too, so one of `2 ^ 32` is taken for nothing, and what is left over then
is not reduced any further. -/

namespace LongDivision

/-- One step: what a word of the quotient leaves of `v` by `den`. -/
private def step (den v : Nat) : Nat :=
  let lead := den / 2 ^ 64
  let top := v / 2 ^ 64
  if top < lead then v
  else
    let word := top / lead % 2 ^ 32
    let high := (top - word * lead) % 2 ^ 32
    let left : Int := (high * 2 ^ 64 + v % 2 ^ 64 : Nat) - (word * (den % 2 ^ 64) : Nat)
    if left < 0 then (left % den).toNat else left.toNat

private def stepsFrom (den num : Nat) : Nat → Nat → Nat
  | 0, r => r
  | k + 1, r => stepsFrom den num k (step den (r * 2 ^ 32 + num / 2 ^ (32 * k) % 2 ^ 32))

/-- What is left of a dividend of at most seven words. -/
def remainder (num den : Nat) : Nat :=
  if den < 2 ^ 64 then num % den
  else
    let shift := 95 - den.log2
    stepsFrom (den * 2 ^ shift) (num * 2 ^ shift) 7 0 / 2 ^ shift

end LongDivision

/-- The remainder by a number that is not zero; it has the sign of the dividend. -/
def rem? (a b : Decimal) : Option Decimal :=
  let s := max a.scale b.scale
  let x := signedAt a s
  let y := signedAt b s
  if x.natAbs = 0 || x.natAbs = y.natAbs then some zero
  else if x.natAbs < y.natAbs then some a
  else fit? (x < 0) (LongDivision.remainder x.natAbs y.natAbs) s

/-! ### Order -/

def compare (a b : Decimal) : Ordering :=
  let s := max a.scale b.scale
  Ord.compare (signedAt a s) (signedAt b s)

/-- Equality as numbers, whatever the places. -/
def eqv (a b : Decimal) : Bool := a.compare b == .eq

/-! ### Floating-point numbers -/

/-- The nearest number that the engine's conversion reaches: whole and fractional part are converted apart, added,
and rounded to the places of the decimal. -/
def toBinary64 (d : Decimal) : Binary64 :=
  if d.scale = 0 then Binary64.ofInt d.signed
  else
    let unit := 10 ^ d.scale
    let whole := Binary64.ofInt (d.coefficient / unit : Nat)
    let part := Binary64.div (Binary64.ofInt (d.coefficient % unit : Nat)) (Binary64.ofInt (unit : Nat))
    let magnitude :=
      if part.isZero then whole
      else
        let scaled := Binary64.powInt (Binary64.ofInt 10) d.scale
        Binary64.div (Binary64.roundUp (Binary64.mul (Binary64.add whole part) scaled)) scaled
    if d.negative then magnitude.neg else magnitude

/-- A coefficient, a binary and a decimal exponent: `coefficient · 2 ^ binary · 10 ^ decimal`. -/
private structure Mixed where
  coefficient : Nat
  binary : Int
  decimal : Int

private def raise : Nat → Mixed → Mixed
  | 0, m => m
  | k + 1, m =>
    if m.coefficient % 2 = 0 then raise k { m with coefficient := m.coefficient / 2, decimal := m.decimal + 1 }
    else if m.coefficient * 5 < 2 ^ 96 then raise k { m with coefficient := m.coefficient * 5 }
    else raise k { m with coefficient := m.coefficient / 2, decimal := m.decimal + 1 }

private def lower : Nat → Mixed → Mixed
  | 0, m => m
  | k + 1, m =>
    if m.coefficient < 2 ^ 95 then lower k { m with coefficient := m.coefficient * 2, decimal := m.decimal - 1 }
    else lower k { m with coefficient := m.coefficient / 5 }

private def toWhole : Nat → Mixed → Option Mixed
  | 0, m => some m
  | k + 1, m =>
    if m.coefficient * 10 < 2 ^ 96 then
      toWhole k { m with coefficient := m.coefficient * 10, decimal := m.decimal - 1 }
    else none

private def cutPlaces : Nat → Mixed → Mixed
  | 0, m => m
  | k + 1, m =>
    if -28 ≤ m.decimal then m
    else
      let c := m.coefficient / 10
      if c = 0 then { m with coefficient := 0, decimal := 0 }
      else
        let c := if 5 ≤ m.coefficient % 10 then c + 1 else c
        cutPlaces k { m with coefficient := c, decimal := m.decimal + 1 }

private def cutDigits : Nat → Mixed → Mixed
  | 0, m => m
  | k + 1, m =>
    if m.decimal < 0 && 2 ^ 52 ≤ m.coefficient then
      cutDigits k { m with coefficient := divRoundUp m.coefficient 10, decimal := m.decimal + 1 }
    else m

private def dropEnd : Nat → Mixed → Mixed
  | 0, m => m
  | k + 1, m =>
    if m.decimal < 0 && m.coefficient % 10 = 0 then
      dropEnd k { m with coefficient := m.coefficient / 10, decimal := m.decimal + 1 }
    else m

/-- The decimal with the digits that a floating-point number guarantees, about fifteen, without zeros at the
end. -/
def ofBinary64? (x : Binary64) : Option Decimal :=
  if !x.isFinite then none
  else if x.isZero then some { zero with negative := x.isNegative }
  else if 96 ≤ x.significand.log2 + x.scale then none
  else
    let e := x.scale
    let start : Mixed := ⟨x.significand, e, e⟩
    let scaled := if e < 0 then raise (-e).toNat start else lower e.toNat start
    match toWhole scaled.decimal.toNat scaled with
    | none => none
    | some whole =>
      let m := dropEnd 28 (cutDigits 28 (cutPlaces (-whole.decimal).toNat whole))
      if h : m.coefficient < 2 ^ 96 ∧ (-m.decimal).toNat ≤ 28 then
        some ⟨x.isNegative, m.coefficient, (-m.decimal).toNat, h.1, h.2⟩
      else none

end Decimal

end Sandscript

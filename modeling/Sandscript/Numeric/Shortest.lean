import Sandscript.Numeric.Binary64

/-!
# Decimal texts of floating-point numbers

`shortest` gives the fewest decimal digits that read back as the same number, and of these the nearest to it.  How
the digits are laid out is the business of a `FloatLayout`: which magnitudes are written plainly, whether whole
numbers keep `.0`, and whether a positive exponent shows its sign.
-/

namespace Sandscript

open Numeric

namespace Binary64

/-! ### The fewest digits -/

/-- The numbers `lower / unit` to `upper / unit` round to `value / unit`; the ends belong to them if `closed`. -/
structure Interval where
  lower : Nat
  value : Nat
  upper : Nat
  unit : Nat
  closed : Bool

/-- What rounds to the magnitude of a finite number. -/
def interval (x : Binary64) : Interval :=
  let m := x.significand
  let p := twoPow (x.scale - 2)
  let below := if m = 2 ^ 52 ∧ 2 ^ 53 ≤ x.absWord then 1 else 2
  ⟨(4 * m - below) * p.1, 4 * m * p.1, (4 * m + 2) * p.1, p.2, m % 2 = 0⟩

/-- Whether `c · num / den` lies in the interval. -/
def Interval.holds (i : Interval) (c num den : Nat) : Bool :=
  let v := c * num * i.unit
  if i.closed then i.lower * den ≤ v && v ≤ i.upper * den else i.lower * den < v && v < i.upper * den

/-- The exponent of the leading decimal digit of `num / den`, found upwards from a lower bound. -/
def leadingFrom (num den : Nat) : Nat → Int → Int
  | 0, e => e
  | k + 1, e =>
    let above := if 0 ≤ e + 1 then den * 10 ^ (e + 1).toNat ≤ num else den ≤ num * 10 ^ (-(e + 1)).toNat
    if above then leadingFrom num den k (e + 1) else e

def decimalExponent (num den : Nat) : Int :=
  let e : Int := ((num.log2 : Int) - den.log2 - 1) * 30103 / 100000 - 1
  leadingFrom num den 4 e

/-- The point of the grid `10 ^ exponent` that reads back, the nearer one if there are two. -/
def onGrid (i : Interval) (exponent : Int) : Option Nat :=
  let num := if 0 ≤ exponent then 10 ^ exponent.toNat else 1
  let den := if 0 ≤ exponent then 1 else 10 ^ (-exponent).toNat
  let below := i.value * den / (i.unit * num)
  let rest := i.value * den % (i.unit * num)
  match i.holds below num den && 0 < below, i.holds (below + 1) num den with
  | true, true => if 2 * rest ≤ i.unit * num then some below else some (below + 1)
  | true, false => some below
  | false, true => some (below + 1)
  | false, false => none

def search (i : Interval) (top : Int) : Nat → Nat → Nat × Int
  | 0, _ => (0, 0)
  | k + 1, n =>
    let exponent := top - n
    match onGrid i exponent with
    | some c => dropZeros c exponent
    | none => search i top k (n + 1)

/-- The coefficient and the exponent of the shortest decimal that reads back as the magnitude of the number. -/
def shortest (x : Binary64) : Nat × Int :=
  if x.isZero then (0, 0)
  else
    let i := x.interval
    search i (decimalExponent i.value i.unit) 20 0

end Binary64

/-! ### Layout -/

/-- How a finite number is written. -/
structure FloatLayout where
  /-- The least magnitude that is written plainly. -/
  lowest : Binary64
  /-- The greatest magnitude that is written plainly. -/
  highest : Binary64
  /-- Whole numbers end in `.0`. -/
  pointZero : Bool
  /-- A positive exponent has a sign. -/
  plusSign : Bool
  /-- A zero keeps its sign. -/
  signedZero : Bool

namespace FloatLayout

def zeros (n : Nat) : List Char := List.replicate n '0'

/-- The digits of `c · 10 ^ e` without an exponent. -/
def plain (pointZero : Bool) (c : Nat) (e : Int) : List Char :=
  let ds := digits c
  if 0 ≤ e then
    (if c = 0 then ['0'] else ds ++ zeros e.toNat) ++ (if pointZero then ['.', '0'] else [])
  else
    let places := (-e).toNat
    if places < ds.length then ds.take (ds.length - places) ++ '.' :: ds.drop (ds.length - places)
    else '0' :: '.' :: zeros (places - ds.length) ++ ds

/-- The digits of `c · 10 ^ e` with one digit before the point and an exponent. -/
def scientific (plusSign : Bool) (c : Nat) (e : Int) : List Char :=
  let ds := digits c
  let exponent : Int := e + (ds.length - 1 : Nat)
  let sign := if exponent < 0 then ['-'] else if plusSign then ['+'] else []
  ds.take 1 ++ (if ds.length = 1 then [] else '.' :: ds.drop 1) ++ 'e' :: sign ++ digits exponent.natAbs

def isPlain (l : FloatLayout) (x : Binary64) : Bool :=
  x.isZero || (l.lowest.absWord ≤ x.absWord && x.absWord ≤ l.highest.absWord)

def chars (l : FloatLayout) (x : Binary64) : List Char :=
  if x.isNaN then "NaN".toList
  else
    let body :=
      if x.isInfinite then "inf".toList
      else if l.isPlain x then plain l.pointZero x.shortest.1 x.shortest.2
      else scientific l.plusSign x.shortest.1 x.shortest.2
    if x.isNegative && (l.signedZero || !x.isZero) then '-' :: body else body

def text (l : FloatLayout) (x : Binary64) : String := String.ofList (l.chars x)

/-- Plain from `1e-5` up to below `1e16`, as in machine-readable output. -/
def interchange : FloatLayout :=
  ⟨.ofScaled false 1 (-5), .ofScaled false 9999999999999998 0, true, true, true⟩

/-- As `interchange`, without the sign of a positive exponent. -/
def debug : FloatLayout := { interchange with plusSign := false }

/-- Never an exponent, and no point on whole numbers. -/
def unscaled : FloatLayout := ⟨.zero, .infinity, false, false, true⟩

/-- The text of a number inside a script: plain between the single-precision numbers nearest to `1e-13` and
`1e13`. -/
def script : FloatLayout :=
  ⟨.ofScaled false 999999982451670044 (-31), .ofScaled false 9999999827968 0, true, false, false⟩

end FloatLayout

/-! ### Reading -/

namespace Binary64

private def readExponent (cs : List Char) : Option Int :=
  let (negative, ds) := match cs with
    | '-' :: r => (true, r)
    | '+' :: r => (false, r)
    | r => (false, r)
  if ds.isEmpty || !ds.all Char.isDigit then none
  else
    let n : Int := ofDigits ds
    some (if negative then -n else n)

private def readMagnitude (negative : Bool) (cs : List Char) : Option Binary64 :=
  let whole := cs.takeWhile Char.isDigit
  let afterWhole := cs.dropWhile Char.isDigit
  let (places, rest) := match afterWhole with
    | '.' :: r => (r.takeWhile Char.isDigit, r.dropWhile Char.isDigit)
    | r => ([], r)
  if whole.isEmpty && places.isEmpty then none
  else
    let coefficient := ofDigits (whole ++ places)
    match rest with
    | [] => some (ofScaled negative coefficient (-places.length))
    | c :: r =>
      if c == 'e' || c == 'E' then
        (readExponent r).map fun e => ofScaled negative coefficient (e - places.length)
      else none

/-- Reads a signed number with optional places and exponent, `inf`, `infinity` or `nan`; the words in any case. -/
def ofChars? (cs : List Char) : Option Binary64 :=
  let (negative, body) := match cs with
    | '-' :: r => (true, r)
    | '+' :: r => (false, r)
    | r => (false, r)
  let word := String.ofList (body.map Char.toLower)
  if word == "inf" || word == "infinity" then some (ofWord negative infinityWord)
  else if word == "nan" then some (ofWord negative nan.absWord)
  else readMagnitude negative body

def ofText? (s : String) : Option Binary64 := ofChars? s.toList

end Binary64

end Sandscript

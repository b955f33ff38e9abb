import Sandscript.Numeric.Decimal

/-!
# Reading decimals

A decimal is written with an optional sign, digits, a point and an exponent.  `_` may stand behind a digit.  Digits that
find no place any more are rounded off, a half going up.  The exponent moves the point of the number that is written
before it, so the parts are read apart: first the number, then the exponent.
-/

namespace Sandscript

open Numeric

namespace Decimal

/-- Why a text is no decimal. -/
inductive ReadError where
  | empty
  | noDigits
  | twoPoints
  | leadingSeparator
  | unknownCharacter
  | tooManyDigits
  | overflowAfterRounding
  | badExponent
  /-- An exponent that asks for more places than there are. -/
  | tooManyPlaces (places : Nat)
  | tooLarge
deriving DecidableEq, Repr

def ReadError.message : ReadError → String
  | .empty => "Invalid decimal: empty"
  | .noDigits => "Invalid decimal: no digits found"
  | .twoPoints => "Invalid decimal: two decimal points"
  | .leadingSeparator => "Invalid decimal: must start lead with a number"
  | .unknownCharacter => "Invalid decimal: unknown character"
  | .tooManyDigits => "Invalid decimal: overflow from too many digits"
  | .overflowAfterRounding => "Invalid decimal: overflow from mantissa after rounding"
  | .badExponent => "Failed to parse"
  | .tooManyPlaces places => s!"Scale exceeds the maximum precision allowed: {places} > 28"
  | .tooLarge => "Number exceeds maximum value that can be represented."

/-! ### The number -/

/-- What has been read of a text: the digits so far, the places among them, and whether a point and a digit were
seen. -/
structure Progress where
  coefficient : Nat := 0
  scale : Nat := 0
  point : Bool := false
  digitSeen : Bool := false

def stray (c : Char) : ReadError :=
  if c == '.' then .twoPoints else if c == '_' then .leadingSeparator else .unknownCharacter

def finish (negative : Bool) (coefficient scale : Nat) : Except ReadError Decimal :=
  match ofParts? negative coefficient scale with
  | some d => .ok d
  | none => .error .tooManyDigits

/-- Rounds by the first character that finds no place any more. -/
def roundOff (negative : Bool) (coefficient scale : Nat) (c : Char) : Except ReadError Decimal :=
  if !c.isDigit && c != '_' then .error (stray c)
  else if c.isDigit && 5 ≤ digitValue c then
    if coefficient + 1 < 2 ^ 96 then finish negative (coefficient + 1) scale
    else if scale = 0 then .error .overflowAfterRounding
    else finish negative ((coefficient + 5) / 10) (scale - 1)
  else finish negative coefficient scale

/-- What follows a digit that was rounded off does not count, but has to be digits. -/
def ignoring (rest : List Char) (d : Decimal) : Except ReadError Decimal :=
  match rest.find? fun c => !c.isDigit && c != '_' with
  | some c => .error (stray c)
  | none => .ok d

def readFrom (negative : Bool) (p : Progress) : List Char → Except ReadError Decimal
  | [] => if p.digitSeen then finish negative p.coefficient p.scale else .error .noDigits
  | c :: rest =>
    if p.point && 28 ≤ p.scale then (roundOff negative p.coefficient p.scale c).bind (ignoring rest)
    else if c.isDigit then
      let next := 10 * p.coefficient + digitValue c
      if next < 2 ^ 96 then
        readFrom negative
          { p with coefficient := next, scale := if p.point then p.scale + 1 else 0, digitSeen := true } rest
      else if p.point then (roundOff negative p.coefficient p.scale c).bind (ignoring rest)
      else .error .tooManyDigits
    else if c == '.' && !p.point then readFrom negative { p with point := true } rest
    else if c == '_' && p.digitSeen then readFrom negative p rest
    else .error (stray c)

/-- A number without an exponent. -/
def readPlain : List Char → Except ReadError Decimal
  | [] => .error .empty
  | '-' :: rest => readFrom true {} rest
  | '+' :: rest => readFrom false {} rest
  | cs => readFrom false {} cs

/-! ### The exponent -/

/-- The digits of an exponent below `2 ^ 32`, perhaps behind a plus sign. -/
private def readCount (cs : List Char) : Except ReadError Nat :=
  let ds := match cs with
    | '+' :: r => r
    | r => r
  if ds.isEmpty || !ds.all Char.isDigit || 2 ^ 32 ≤ ofDigits ds then .error .badExponent else .ok (ofDigits ds)

/-- The point moved to the left by `n` places; places that do not fit are rounded off. -/
private def shiftLeft (d : Decimal) (n : Nat) : Except ReadError Decimal :=
  if 28 < n then .error (.tooManyPlaces n)
  else if d.scale + n ≤ 28 then finish d.negative d.coefficient (d.scale + n)
  else finish d.negative (divRoundUp d.coefficient (10 ^ (d.scale + n - 28))) 28

/-- The point moved to the right by `n` places. -/
private def shiftRight (d : Decimal) (n : Nat) : Except ReadError Decimal :=
  if n ≤ d.scale then finish d.negative d.coefficient (d.scale - n)
  else if 28 < n then .error (.tooManyPlaces n)
  else
    let first := min n 19
    match (ofNat? (10 ^ first)).bind d.mul?, ofNat? (10 ^ (n - first)) with
    | some x, some y =>
      match x.mul? y with
      | some d => .ok d.normalized
      | none => .error .tooLarge
    | _, _ => .error .tooLarge

private def shift (d : Decimal) : List Char → Except ReadError Decimal
  | '-' :: rest => (readCount rest).bind (shiftLeft d)
  | cs => (readCount cs).bind (shiftRight d)

/-- Reads a number with or without an exponent. -/
def ofChars (cs : List Char) : Except ReadError Decimal :=
  match cs.span fun c => c != 'e' && c != 'E' with
  | (number, []) => readPlain number
  | (number, _ :: exponent) => (readPlain number).bind fun d => shift d exponent

def ofText (s : String) : Except ReadError Decimal := ofChars s.toList

end Decimal

end Sandscript

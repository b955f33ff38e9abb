import Sandscript.Calendar
import Sandscript.Numeric.Rounding
import Sandscript.Text.Blank

/-!
# Points in time

A timestamp is a date and a time of day in coordinated universal time, down to the nanosecond; a leap second is second
60.  It is written with as many groups of three places as it takes, and read with any offset.
-/

namespace Sandscript

structure Timestamp where
  year : Int
  month : Nat
  day : Nat
  hour : Nat
  minute : Nat
  second : Nat
  nanos : Nat
deriving DecidableEq, Repr, Inhabited

namespace Timestamp

/-- Moves a timestamp by whole minutes. -/
def addMinutes (t : Timestamp) (minutes : Int) : Timestamp :=
  if minutes = 0 then t
  else
    let total := Calendar.dayNumber t.year t.month t.day * 1440 + (t.hour * 60 + t.minute : Nat) + minutes
    let (y, m, d) := Calendar.ofDayNumber (total / 1440)
    let ofDay := (total % 1440).toNat
    { t with year := y, month := m, day := d, hour := ofDay / 60, minute := ofDay % 60 }

/-! ### Writing -/

def padded (width n : Nat) : List Char :=
  let ds := Numeric.digits n
  List.replicate (width - ds.length) '0' ++ ds

def yearChars (y : Int) : List Char :=
  if 0 ≤ y ∧ y ≤ 9999 then padded 4 y.toNat
  else (if y < 0 then '-' else '+') :: padded 4 y.natAbs

def placesChars (nanos : Nat) : List Char :=
  if nanos = 0 then []
  else if nanos % 1000000 = 0 then '.' :: padded 3 (nanos / 1000000)
  else if nanos % 1000 = 0 then '.' :: padded 6 (nanos / 1000)
  else '.' :: padded 9 nanos

def chars (t : Timestamp) : List Char :=
  yearChars t.year ++ '-' :: padded 2 t.month ++ '-' :: padded 2 t.day ++ 'T' :: padded 2 t.hour ++
    ':' :: padded 2 t.minute ++ ':' :: padded 2 t.second ++ placesChars t.nanos ++ ['Z']

def text (t : Timestamp) : String := String.ofList t.chars

/-! ### Reading -/

inductive ReadError where
  | outOfRange
  | invalid
  | tooShort
  | tooLong
deriving DecidableEq, Repr

def ReadError.message : ReadError → String
  | .outOfRange => "input is out of range"
  | .invalid => "input contains invalid characters"
  | .tooShort => "premature end of input"
  | .tooLong => "trailing input"

abbrev Read (α : Type) := Except ReadError α

/-- At least one and at most `most` digits. -/
def number (most : Nat) (cs : List Char) : Read (Nat × List Char) :=
  match cs with
  | [] => .error .tooShort
  | c :: _ =>
    if !c.isDigit then .error .invalid
    else
      let ds := (cs.take most).takeWhile Char.isDigit
      .ok (Numeric.ofDigits ds, cs.drop ds.length)

def skipBlank (cs : List Char) : List Char := Text.trimLeft cs

def expect (c : Char) (cs : List Char) : Read (List Char) :=
  match skipBlank cs with
  | [] => .error .tooShort
  | d :: rest => if c == d then .ok rest else .error .invalid

def inRange (low high : Nat) (r : Read (Nat × List Char)) : Read (Nat × List Char) :=
  match r with
  | .ok (n, rest) => if low ≤ n ∧ n ≤ high then .ok (n, rest) else .error .outOfRange
  | .error e => .error e

def field (low high : Nat) (cs : List Char) : Read (Nat × List Char) :=
  inRange low high (number 2 (skipBlank cs))

def readYear (cs : List Char) : Read (Int × List Char) :=
  let signed (negative : Bool) (rest : List Char) : Read (Int × List Char) :=
    match number rest.length rest with
    | .ok (n, rest) => .ok (if negative then -(n : Int) else n, rest)
    | .error e => .error e
  match skipBlank cs with
  | '-' :: rest => signed true rest
  | '+' :: rest => signed false rest
  | cs =>
    match number 4 cs with
    | .ok (n, rest) => .ok (n, rest)
    | .error e => .error e

def readNanos (cs : List Char) : Read (Nat × List Char) :=
  match cs with
  | '.' :: rest =>
    match number 9 rest with
    | .ok (n, after) =>
      let places := rest.length - after.length
      .ok (n * 10 ^ (9 - places), after.dropWhile Char.isDigit)
    | .error e => .error e
  | cs => .ok (0, cs)

def twoDigits (cs : List Char) : Option (Char × Char) :=
  match cs with
  | a :: b :: _ => some (a, b)
  | _ => none

/-- An offset in minutes. -/
def readOffset (cs : List Char) : Read (Int × List Char) :=
  let signed (negative : Bool) (cs : List Char) : Read (Int × List Char) :=
    match twoDigits cs with
    | none => .error .tooShort
    | some (a, b) =>
      if !(a.isDigit && b.isDigit) then .error .invalid
      else
        let hours := Numeric.ofDigits [a, b]
        let rest := (cs.drop 2).dropWhile fun c => c == ':' || Text.isBlankChar c
        match twoDigits rest with
        | none => .error .tooShort
        | some (a, b) =>
          if !(a.isDigit && b.isDigit) then .error .invalid
          else if 5 < Numeric.digitValue a then .error .outOfRange
          else
            let minutes : Int := (hours * 60 + Numeric.ofDigits [a, b] : Nat)
            .ok (if negative then -minutes else minutes, rest.drop 2)
  match cs with
  | [] => .error .tooShort
  | c :: rest =>
    if c == 'Z' || c == 'z' then .ok (0, rest)
    else if c == '+' then signed false rest
    else if c == '-' || c.toNat = 0x2212 then signed true rest
    else if (cs.take 3).map Char.toUpper == ['U', 'T', 'C'] then .ok (0, cs.drop 3)
    else .error .invalid

def maxYear : Int := 262142

/-- Reads a date, a time of day and an offset. -/
def ofChars (cs : List Char) : Except ReadError Timestamp := do
  let (year, cs) ← readYear cs
  let cs ← expect '-' cs
  let (month, cs) ← field 1 12 cs
  let cs ← expect '-' cs
  let (day, cs) ← field 1 31 cs
  let cs ← match cs with
    | [] => .error .tooShort
    | c :: rest => if c == 'T' || c == 't' || c == ' ' then .ok rest else .error .invalid
  let (hour, cs) ← field 0 23 cs
  let cs ← expect ':' cs
  let (minute, cs) ← field 0 59 cs
  let cs ← expect ':' cs
  let (second, cs) ← field 0 60 cs
  let (nanos, cs) ← readNanos cs
  let (offset, cs) ← readOffset (skipBlank cs)
  if !(skipBlank cs).isEmpty then .error .tooLong
  else if Calendar.daysInMonth year month < day || maxYear < year || year < -maxYear - 1 || 1440 ≤ offset.natAbs then
    .error .outOfRange
  else .ok (addMinutes { year, month, day, hour, minute, second, nanos } (-offset))

def ofText (s : String) : Except ReadError Timestamp := ofChars s.toList

end Timestamp

end Sandscript

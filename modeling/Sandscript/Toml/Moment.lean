import Sandscript.Calendar
import Sandscript.Numeric.Rounding

/-!
# Written dates and times

An unquoted value may be a date, a time of day, or a date with a time and perhaps an offset.  Settings hold none of
them, so that nothing is kept of a moment; but one that is written wrongly is refused for what is wrong with it.
First the parts have to follow one another as they should, then each has to have its width, and then its range.
-/

namespace Sandscript.Toml

/-- The part of a moment in which something else was expected. -/
inductive MomentPart where
  | whole
  | date
  | join
  | time
  | offset
deriving DecidableEq, Repr

structure MomentFault where
  part : MomentPart
  /-- What was expected; empty if there is nothing to say. -/
  expected : String
deriving DecidableEq, Repr

namespace MomentPart

def name : MomentPart → String
  | whole => "datetime"
  | date => "date"
  | join => "date-time"
  | time => "time"
  | offset => "offset"

end MomentPart

def MomentFault.message (f : MomentFault) : String :=
  "invalid " ++ f.part.name ++ (if f.expected.isEmpty then "" else ", expected " ++ f.expected)

namespace Moment

/-- What a moment is written with. -/
inductive Sign where
  | digits (ds : List Char)
  | dash
  | colon
  | plus
  | point
  | blank
  | letterT
  | letterZ
  /-- Anything else; what follows it is not looked at. -/
  | other
deriving DecidableEq, Repr

def signs : List Char → List Sign
  | [] => []
  | c :: rest =>
    if c.isDigit then
      match signs rest with
      | .digits ds :: more => .digits (c :: ds) :: more
      | more => .digits [c] :: more
    else if c == '-' then .dash :: signs rest
    else if c == ':' then .colon :: signs rest
    else if c == '+' then .plus :: signs rest
    else if c == '.' then .point :: signs rest
    else if c == ' ' then .blank :: signs rest
    else if c == 'T' || c == 't' then .letterT :: signs rest
    else if c == 'Z' || c == 'z' then .letterZ :: signs rest
    else [.other]

private abbrev Read := Except MomentFault

private def refuse {α : Type} (part : MomentPart) (expected : String) : Read α := .error ⟨part, expected⟩

private def digits (part : MomentPart) (expected : String) : List Sign → Read (List Char × List Sign)
  | .digits ds :: rest => .ok (ds, rest)
  | _ => refuse part expected

private def exactly (s : Sign) (part : MomentPart) (expected : String) : List Sign → Read (List Sign)
  | t :: rest => if t = s then .ok rest else refuse part expected
  | [] => refuse part expected

private def width (ds : List Char) (n : Nat) (part : MomentPart) (expected : String) : Read Unit :=
  if ds.length = n then .ok () else refuse part expected

private def range (ds : List Char) (low high : Nat) (part : MomentPart) (expected : String) : Read Unit :=
  let n := Numeric.ofDigits ds
  if low ≤ n ∧ n ≤ high then .ok () else refuse part expected

private def twoDigits (n : Nat) : String := (if n < 10 then "0" else "") ++ toString n

/-- The date whose year is read, from the dash behind the year on. -/
private def date (year : List Char) (ss : List Sign) : Read (List Sign) := do
  let (month, ss) ← digits .date "month" ss
  let ss ← exactly .dash .date "`-` (MM-DD)" ss
  let (day, ss) ← digits .date "day" ss
  width year 4 .date "a four-digit year (YYYY)"
  width month 2 .date "a two-digit month (MM)"
  width day 2 .date "a two-digit day (DD)"
  range month 1 12 .date "month between 01 and 12"
  let last := Calendar.daysInMonth (Numeric.ofDigits year) (Numeric.ofDigits month)
  range day 1 last .date ("day between 01 and " ++ twoDigits last)
  return ss

private def seconds (ss : List Sign) : Read (Option (List Char) × List Sign) :=
  match ss with
  | .colon :: ss => (digits .time "second" ss).map fun (ds, ss) => (some ds, ss)
  | ss => .ok (none, ss)

private def places (ss : List Sign) : Read (List Sign) :=
  match ss with
  | .point :: ss => (digits .time "nanosecond" ss).map (·.2)
  | ss => .ok ss

private def time (ss : List Sign) : Read (List Sign) := do
  let (hour, ss) ← digits .time "hour" ss
  let ss ← exactly .colon .time "`:` (HH:MM)" ss
  let (minute, ss) ← digits .time "minute" ss
  let (second, ss) ← seconds ss
  let ss ← if second.isSome then places ss else .ok ss
  width hour 2 .time "a two-digit hour (HH)"
  width minute 2 .time "a two-digit minute (MM)"
  second.forM fun ds => width ds 2 .time "a two-digit second (SS)"
  range hour 0 23 .time "hour between 00 and 23"
  range minute 0 59 .time "minute between 00 and 59"
  second.forM fun ds => range ds 0 60 .time "second between 00 and 60"
  return ss

/-- The hours and minutes of an offset behind its sign. -/
private def offset (ss : List Sign) : Read (List Sign) := do
  let (hours, ss) ← digits .offset "hour" ss
  let ss ← exactly .colon .offset "`:` (HH:MM)" ss
  let (minutes, ss) ← digits .offset "minute" ss
  width hours 2 .offset "a two-digit hour (HH)"
  width minutes 2 .offset "a two-digit minute (MM)"
  range hours 0 23 .offset "hours between 00 and 23"
  range minutes 0 59 .offset "minutes between 00 and 59"
  return ss

private def finish : List Sign → Read Unit
  | [] => .ok ()
  | _ => refuse .whole ""

/-- What may follow a date with a time. -/
private def zone : List Sign → Read Unit
  | [] => .ok ()
  | .letterZ :: ss => finish ss
  | .plus :: ss | .dash :: ss => do finish (← offset ss)
  | _ => refuse .offset "`Z`, +OFFSET, -OFFSET"

/-- Checks how a moment is written. -/
def check (cs : List Char) : Except MomentFault Unit := do
  let ss := signs cs
  let (first, rest) ← digits .whole "year or hour" ss
  match rest with
  | .dash :: rest =>
    match ← date first rest with
    | [] => return ()
    | .letterT :: ss | .blank :: ss => zone (← time ss)
    | _ => refuse .join "`T` between date and time"
  | .colon :: _ => finish (← time ss)
  | _ => refuse .whole "`-` (YYYY-MM) or `:` (HH:MM)"

end Moment

end Sandscript.Toml

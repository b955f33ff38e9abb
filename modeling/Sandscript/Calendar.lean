/-!
# The calendar

The Gregorian calendar, extended to all years.  Days are numbered from the first of March of the year zero on, so that
the day that only leap years have is the last one of its year.
-/

namespace Sandscript.Calendar

def isLeapYear (y : Int) : Bool := y % 4 == 0 && (y % 100 != 0 || y % 400 == 0)

def daysInMonth (y : Int) (m : Nat) : Nat :=
  if m = 2 then (if isLeapYear y then 29 else 28)
  else if m = 4 ∨ m = 6 ∨ m = 9 ∨ m = 11 then 30 else 31

/-- Days since the first of March of the year zero. -/
def dayNumber (y : Int) (m d : Nat) : Int :=
  let y := if m ≤ 2 then y - 1 else y
  let m := if m ≤ 2 then m + 9 else m - 3
  365 * y + y / 4 - y / 100 + y / 400 + ((153 * m + 2) / 5 : Nat) + d - 1

/-- The date of a day number. -/
def ofDayNumber (n : Int) : Int × Nat × Nat :=
  let era := n / 146097
  let day := (n % 146097).toNat
  let year := (day - day / 1460 + day / 36524 - day / 146096) / 365
  let ofYear := day - (365 * year + year / 4 - year / 100)
  let m := (5 * ofYear + 2) / 153
  let d := ofYear - (153 * m + 2) / 5 + 1
  let y := era * 400 + year
  if m < 10 then (y, m + 3, d) else (y + 1, m - 9, d)

end Sandscript.Calendar

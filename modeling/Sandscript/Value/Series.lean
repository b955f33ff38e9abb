import Sandscript.Numeric.Decimal
import Sandscript.Numeric.Word

/-!
# Series

What a loop can go through without being a container: numbers at equal steps, the characters of a text and the bits of
an integer.  A series is gone through from its first value on; what is left of it is a series again.
-/

namespace Sandscript

/-- How a kind of numbers is gone through: sums may be out of range, and two numbers may be in no order. -/
structure Stepping (α : Type) where
  add? : α → α → Option α
  compare? : α → α → Option Ordering

namespace Stepping

def integers : Stepping Int64 where
  add? a b := Numeric.word? (a.toInt + b.toInt)
  compare? a b := some (compare a.toInt b.toInt)

def floats : Stepping Binary64 where
  add? a b := some (a.add b)
  compare? a b := if a.lt b then some .lt else if b.lt a then some .gt else if a.eqv b then some .eq else none

def decimals : Stepping Decimal where
  add? a b := a.add? b
  compare? a b := some (a.compare b)

end Stepping

/-- Numbers at equal steps up to, but not including, a bound. -/
structure StepRange (α : Type) where
  next : α
  stop : α
  step : α
  /-- How each number stands to the one before; `eq` where no step can be taken. -/
  direction : Ordering

namespace StepRange

variable {α : Type} (s : Stepping α)

/-- The numbers from `next` on; a step that leads nowhere is refused. -/
def of? (next stop step : α) : Option (StepRange α) :=
  match s.add? next step with
  | none => some ⟨next, stop, step, .eq⟩
  | some second =>
    match s.compare? second next with
    | some .eq => none
    | o => some ⟨next, stop, step, o.getD .eq⟩

/-- Whether a number is at the bound or beyond it. -/
def ends (r : StepRange α) (a : α) : Bool :=
  match s.compare? a r.stop with
  | some o => o = .eq || o = r.direction
  | none => false

/-- The first number and what follows it.  A number that no step can be taken from is left out. -/
def next? (r : StepRange α) : Option (α × StepRange α) :=
  if r.direction = .eq then none
  else
    match s.add? r.next r.step with
    | none => none
    | some following => if r.ends s r.next then none else some (r.next, { r with next := following })

end StepRange

inductive Series where
  | integers (r : StepRange Int64)
  | floats (r : StepRange Binary64)
  | decimals (r : StepRange Decimal)
  | chars (cs : List Char)
  /-- The bits of an integer, the lowest first. -/
  | bits (bs : List Bool)

namespace Series

/-- The kind as the interpreter names it. -/
def typeName : Series → String
  | integers _ => "packages::iter_basic::StepRange<i64>"
  | floats _ => "packages::iter_basic::StepRange<f64>"
  | decimals _ => "packages::iter_basic::StepRange<rust_decimal::decimal::Decimal>"
  | chars _ => "packages::iter_basic::CharsStream"
  | bits _ => "packages::iter_basic::BitRange"

/-- The kind with the library that it is part of. -/
def fullTypeName (s : Series) : String := "rhai::" ++ s.typeName

end Series

end Sandscript

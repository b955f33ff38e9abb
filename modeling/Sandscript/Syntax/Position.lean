/-!
# Positions

A position names a character of a script by its line and its place in the line, both counted from one.
-/

namespace Sandscript

structure Position where
  line : Nat
  column : Nat
deriving DecidableEq, Repr, Inhabited

namespace Position

/-- A place that is in no script. -/
def none : Position := ⟨0, 0⟩

def isNone (p : Position) : Bool := p.line == 0

/-- The line, if the position is in a script. -/
def line? (p : Position) : Option Nat := if p.isNone then Option.none else some p.line

def text (p : Position) : String :=
  if p.column = 0 then "line " ++ toString p.line
  else "line " ++ toString p.line ++ ", position " ++ toString p.column

/-- The position as it follows a message. -/
def suffix (p : Position) : String := if p.isNone then "" else " (" ++ p.text ++ ")"

end Position

end Sandscript

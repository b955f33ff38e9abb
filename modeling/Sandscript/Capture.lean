/-!
# Bounded console capture

A capture keeps the first `maxLines` lines written to it and counts the others.  A kept line is cut after
`maxLineChars` characters, and a cut line ends in `truncationMarker`.
-/

namespace Sandscript

structure Capture where
  maxLines : Nat
  maxLineChars : Nat
  kept : Array String := #[]
  dropped : Nat := 0
deriving Repr, DecidableEq, Inhabited

namespace Capture

/-- What a line that was cut ends in. -/
def truncationMarker : String := "..."

def empty (maxLines maxLineChars : Nat) : Capture := ⟨maxLines, maxLineChars, #[], 0⟩

def lines (c : Capture) : List String := c.kept.toList

def size (c : Capture) : Nat := c.kept.size

def isEmpty (c : Capture) : Bool := c.size == 0

/-- A line as it is kept: whole if it fits, else its first characters and the marker. -/
def cut (maxChars : Nat) (text : String) : String :=
  if text.length ≤ maxChars then text
  else String.ofList (text.toList.take maxChars) ++ truncationMarker

def write (c : Capture) (text : String) : Capture :=
  if c.maxLines ≤ c.size then { c with dropped := c.dropped + 1 }
  else { c with kept := c.kept.push (cut c.maxLineChars text) }

def writeAll (c : Capture) (texts : List String) : Capture := texts.foldl write c

end Capture

end Sandscript

import Sandscript.Value.Basic

/-!
# Parts of sequences

Items are counted from zero, and from the end by negative numbers.  A part that reaches beyond an end is cut there.
-/

namespace Sandscript.Library

/-- A run of items: how many stand before it, and how many it has. -/
structure Slice where
  offset : Nat
  count : Nat
deriving DecidableEq, Repr

namespace Slice

/-- The place of an item, if the sequence has it. -/
def place? (size : Nat) (index : Int) : Option Nat :=
  if index < 0 then (if index.natAbs ≤ size then some (size - index.natAbs) else none)
  else if index.toNat < size then some index.toNat
  else none

/-- The first place that is not before `start`; the end of the sequence if there is none. -/
def offsetOf (size : Nat) (start : Int) : Nat :=
  if start < 0 then size - start.natAbs else min start.toNat size

def ofStart (size : Nat) (start count : Int) : Slice :=
  let offset := offsetOf size start
  ⟨offset, min count.toNat (size - offset)⟩

/-- The start and the count that are asked for by two numbers or by a range, whose negative bounds count as zero. -/
def window? : List Value → Option (Int × Int)
  | [.int start, .int count] => some (start.toInt, count.toInt)
  | [.range lo hi] =>
    let start := max lo.toInt 0
    some (start, max hi.toInt start - start)
  | [.rangeIncl lo hi] =>
    let start := max lo.toInt 0
    some (start, max hi.toInt start - start + 1)
  | _ => none

def ofWindow? (size : Nat) (args : List Value) : Option Slice :=
  (window? args).map fun (start, count) => ofStart size start count

/-- As `ofWindow?`; a start alone asks for all that follows. -/
def ofArgs? (size : Nat) : List Value → Option Slice
  | [.int start] => some (ofStart size start.toInt size)
  | args => ofWindow? size args

variable {α : Type}

def of (s : Slice) (items : List α) : List α := (items.drop s.offset).take s.count

/-- What stands before and behind the slice. -/
def outside (s : Slice) (items : List α) : List α := items.take s.offset ++ items.drop (s.offset + s.count)

end Slice

end Sandscript.Library

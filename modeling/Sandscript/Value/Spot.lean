import Sandscript.Library.Slice
import Sandscript.Value.Operators
import Sandscript.Value.Text

/-!
# Places inside values

A key leads to a spot of a value: an item of an array, an entry of a map, a character or a slice of a string, a bit or
several bits of an integer, a byte of a blob.  What stands at a spot can be read and replaced.
-/

namespace Sandscript

inductive Spot where
  | item (i : Nat)
  | entry (key : String)
  /-- A character: where it is read, and where it is written. -/
  | character (i place : Nat)
  /-- A slice of a string: what is read, and from which place on the string stays when it is written. -/
  | characters (slice : Library.Slice) (stop : Nat)
  | bit (i : Nat)
  /-- Some bits of an integer: how many lie below them, and a word in which they are set. -/
  | bits (below : Nat) (mask : Int64)
  | byte (i : Nat)
deriving DecidableEq, Repr

/-- Why a key leads nowhere. -/
inductive KeyFault where
  /-- The key itself is wrong. -/
  | key (fault : Fault)
  /-- The value has no parts that a key could lead to. -/
  | value (typeName keyType : String)

namespace Value

private def placeOf (what : Addressed) (size : Nat) (index : Int64) : Except KeyFault Nat :=
  match Library.Slice.place? size index.toInt with
  | some i => .ok i
  | none => .error (.key (.outOfBounds what size index.toInt))

private def wrongKey (expected : Value) (key : Value) : KeyFault := .key (.mismatch expected.typeName key.typeName)

/-- A negative index is read from the end, but written that many places behind the start. -/
private def characterOf (size : Nat) (index : Int64) : Except KeyFault Spot :=
  (placeOf .text size index).map fun i => .character i index.toInt.natAbs

/-- The slice of a string between two bounds, of which negative ones are counted from the end. -/
private def charactersOf (size : Nat) (lo hi : Int) (inclusive : Bool) : Except KeyFault Spot :=
  let bound (n : Int) : Option Nat := if 0 ≤ n then some n.toNat else Library.Slice.place? size n
  let slice (start : Nat) : Spot :=
    let stop := (bound hi).getD 0
    let past := if inclusive then stop + 1 else stop
    .characters ⟨start, if start < stop then past - start else 0⟩ past
  match bound lo with
  | some start => .ok (slice start)
  | none => if size = 0 then .ok (slice 0) else .error (.key (.outOfBounds .text size lo))

/-- The bits between two bounds, neither of which may lie outside of the word. -/
private def bitsOf (lo hi : Int) (inclusive : Bool) : Except KeyFault Spot :=
  let outside (n : Int) : Bool := n < 0 || 64 ≤ n
  if outside lo then .error (.key (.outOfBounds .bits 64 lo))
  else if outside hi then .error (.key (.outOfBounds .bits 64 hi))
  else
    let past := if inclusive then hi + 1 else hi
    .ok (if past ≤ lo then .bits 0 0 else .bits lo.toNat (Int64.ofInt (2 ^ past.toNat - 2 ^ lo.toNat)))

/-- Where a key leads. -/
def spot (v key : Value) : Except KeyFault Spot :=
  match v, key with
  | arr items, int i => (placeOf .array items.length i).map .item
  | arr _, k => .error (wrongKey (.int 0) k)
  | map _, str k => .ok (.entry k)
  | map _, k => .error (wrongKey (.str "") k)
  | str s, int i => characterOf s.length i
  | str s, range lo hi => charactersOf s.length lo.toInt hi.toInt false
  | str s, rangeIncl lo hi => charactersOf s.length lo.toInt hi.toInt true
  | str _, k => .error (wrongKey (.int 0) k)
  | int _, int i => (placeOf .bits 64 i).map .bit
  | int _, range lo hi => bitsOf lo.toInt hi.toInt false
  | int _, rangeIncl lo hi => bitsOf lo.toInt hi.toInt true
  | int _, k => .error (wrongKey (.int 0) k)
  | blob bytes, int i => (placeOf .array bytes.length i).map .byte
  | blob _, k => .error (wrongKey (.int 0) k)
  | v, k => .error (.value v.shortTypeName k.shortTypeName)

/-- What stands at a spot; a missing entry is `()`. -/
def read (v : Value) (s : Spot) : Value :=
  match v, s with
  | arr items, .item i => items.getD i unit
  | map entries, .entry k => (Fields.get? k entries).getD unit
  | str s, .character i _ => ((s.toList[i]?).map char).getD unit
  | str s, .characters r _ => str (String.ofList (r.of s.toList))
  | int n, .bit i => bool (Numeric.bit n i)
  | int n, .bits below mask => int (Numeric.shiftRight (n &&& mask) (Int64.ofNat below))
  | blob bytes, .byte i => int (Int64.ofNat (bytes.getD i 0).toNat)
  | _, _ => unit

/-- Replaces what stands at a spot.  A slice of a string takes the text of any value. -/
def write (v : Value) (s : Spot) (new : Value) : Except Fault Value :=
  match v, s, new with
  | arr items, .item i, x => .ok (arr (items.set i x))
  | map entries, .entry k, x => .ok (map (Fields.insert k x entries))
  | str s, .character _ place, char c => .ok (str (String.ofList (s.toList.set place c)))
  | str _, .character _ _, x => .error (.mismatch "char" x.typeName)
  | str s, .characters r stop, x =>
    let cs := s.toList
    .ok (str (String.ofList (cs.take r.offset ++ x.text.toList ++ cs.drop stop)))
  | int n, .bit i, bool b => .ok (int (Numeric.withBit n i b))
  | int _, .bit _, x => .error (.mismatch "bool" x.typeName)
  | int n, .bits below mask, int b =>
    .ok (int ((n &&& ~~~mask) ||| (Numeric.shiftLeft b (Int64.ofNat below) &&& mask)))
  | int _, .bits _ _, x => .error (.mismatch "integer" x.typeName)
  | blob bytes, .byte i, int n => .ok (blob (bytes.set i n.toUInt64.toUInt8))
  | blob _, .byte _, x => .error (.mismatch "INT" x.typeName)
  | v, _, _ => .ok v

/-- Whether a spot holds a value of its own, so that what stands there can be changed in place. -/
def holds (v : Value) (s : Spot) : Bool :=
  match v, s with
  | arr _, .item _ => true
  | map entries, .entry k => Fields.contains k entries
  | _, _ => false

end Value

end Sandscript

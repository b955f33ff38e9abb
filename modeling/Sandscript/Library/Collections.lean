import Sandscript.Library.Numbers

/-!
# Collections

The functions of the library that look at strings, arrays and maps as a whole, and the truth of a value: `()`,
`false`, zero and whatever is empty are false, all else is true.
-/

namespace Sandscript.Library

def truthy : Value → Bool
  | .unit => false
  | .bool b => b
  | .int n => n != 0
  | .float x => !x.isZero
  | .dec d => !d.isZero
  | .str s => !s.isEmpty
  | .arr items => !items.isEmpty
  | .map entries => !entries.isEmpty
  | _ => true

private def count (n : Nat) : Int64 := Int64.ofNat n

def length : Value → Except String Int64
  | .str s => .ok (count s.length)
  | .arr items => .ok (count items.length)
  | .map entries => .ok (count entries.length)
  | v => .error ("object of type '" ++ v.typeName ++ "' has no len()")

/-- The characters of a string or the keys of a map. -/
def toList : Value → Except String (List Value)
  | .arr items => .ok items
  | .str s => .ok (s.toList.map fun c => .str c.toString)
  | .map entries => .ok (entries.map fun e => .str e.1)
  | v => .error ("list() cannot convert " ++ v.typeName)

def toPair : Value → Except String (String × Value)
  | .arr [k, v] => .ok (k.text, v)
  | _ => .error "dict() expects a list of [key, value] pairs"

/-- The map of a list of pairs; the last pair of a key wins. -/
def toMap : Value → Except String (List (String × Value))
  | .map entries => .ok entries
  | .arr items => (items.mapM toPair).map Fields.ofPairs
  | v => .error ("dict() cannot convert " ++ v.typeName)

private def enumerateFrom (i : Nat) : List Value → List Value
  | [] => []
  | v :: rest => .arr [.int (count i), v] :: enumerateFrom (i + 1) rest

def enumerate (items : List Value) : List Value := enumerateFrom 0 items

def zip (as bs : List Value) : List Value := List.zipWith (fun a b => .arr [a, b]) as bs

end Sandscript.Library

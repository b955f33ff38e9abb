import Sandscript.Library.Slice
import Sandscript.Library.Sorting
import Sandscript.Value.Operators

/-!
# Arrays and maps

The functions of the library on arrays and on maps that take no callback.  `call?` holds those that only read,
`update?` those that change; the latter give the new container and the result of the call.
-/

namespace Sandscript.Library

private def ofCount (n : Nat) : Value := .int (Int64.ofNat n)

namespace Arrays

/-! ### Reading -/

private def indexFrom (v : Value) (i : Nat) : List Value → Except Fault Value
  | [] => .ok (.int (-1))
  | a :: rest =>
    match a.equalParts v with
    | .ok true => .ok (ofCount i)
    | .ok false => indexFrom v (i + 1) rest
    | .error e => .error e

private def indexOf (v : Value) (items : List Value) (start : Int) : Except Fault Value :=
  let offset := Slice.offsetOf items.length start
  indexFrom v offset (items.drop offset)

private def getAt (items : List Value) (place : Int) : Value :=
  ((Slice.place? items.length place).bind (items[·]?)).getD .unit

def call? (name : String) (items : List Value) (args : List Value) : Option (Except Fault Value) :=
  match name, args with
  | "is_empty", [] => some (.ok (.bool items.isEmpty))
  | "get", [.int place] => some (.ok (getAt items place.toInt))
  | "contains", [v] => some ((Value.containsItem v items).map .bool)
  | "index_of", [v] => some (indexOf v items 0)
  | "index_of", [v, .int start] => some (indexOf v items start.toInt)
  | "extract", args => (Slice.ofArgs? items.length args).map fun s => .ok (.arr (s.of items))
  | _, _ => none

/-! ### Changing -/

private def sameKind : List Value → Bool
  | [] => true
  | v :: rest => rest.all fun w => w.typeName == v.typeName

/-- Whether one of two values of a kind has to stand before the other; a NaN stands anywhere. -/
private def isBefore : Value → Value → Bool
  | .int a, .int b => a < b
  | .float a, .float b => a.lt b
  | .dec a, .dec b => a.compare b == .lt
  | .char a, .char b => a < b
  | .str a, .str b => a < b
  | .bool a, .bool b => !a && b
  | _, _ => false

private def isSortable : Value → Bool
  | .int _ | .float _ | .dec _ | .char _ | .str _ | .bool _ | .unit => true
  | _ => false

/-- Items of one kind in ascending order. -/
private def sort : List Value → Except Fault (List Value)
  | [] => .ok []
  | [v] => .ok [v]
  | v :: rest =>
    if !sameKind (v :: rest) then .error (.functionNotFound "elements of different types cannot be sorted")
    else if !isSortable v then .error (.functionNotFound ("elements of " ++ v.typeName ++ " cannot be sorted"))
    else .ok (Id.run (Sorting.sort (fun a b => pure (isBefore a b)) (v :: rest)))

private def dedupFrom (last : Value) : List Value → List Value
  | [] => []
  | v :: rest =>
    match last.equal v with
    | .ok true => dedupFrom last rest
    | _ => v :: dedupFrom v rest

/-- Of equal neighbours only the first stays. -/
def dedup : List Value → List Value
  | [] => []
  | v :: rest => v :: dedupFrom v rest

private def insertAt (items : List Value) (place : Int) (v : Value) : List Value :=
  let k := Slice.offsetOf items.length place
  items.take k ++ v :: items.drop k

private def removeAt (items : List Value) (place : Int) : List Value × Value :=
  match Slice.place? items.length place with
  | some k => (items.eraseIdx k, items.getD k .unit)
  | none => (items, .unit)

private def setAt (items : List Value) (place : Int) (v : Value) : List Value :=
  match Slice.place? items.length place with
  | some k => items.set k v
  | none => items

private def splice (items : List Value) (s : Slice) (others : List Value) : List Value :=
  items.take s.offset ++ others ++ items.drop (s.offset + s.count)

def update? (name : String) (items : List Value) (args : List Value) :
    Option (Except Fault (List Value × Value)) :=
  let done (r : List Value) : Option (Except Fault (List Value × Value)) := some (.ok (r, .unit))
  match name, args with
  | "pop", [] => some (.ok (items.dropLast, items.getLast?.getD .unit))
  | "shift", [] => some (.ok (items.drop 1, items.head?.getD .unit))
  | "clear", [] => done []
  | "reverse", [] => done items.reverse
  | "sort", [] => some ((sort items).map fun r => (r, .unit))
  | "dedup", [] => done (dedup items)
  | "push", [v] => done (items ++ [v])
  | "append", [.arr more] => done (items ++ more)
  | "insert", [.int place, v] => done (insertAt items place.toInt v)
  | "remove", [.int place] => some (.ok (removeAt items place.toInt))
  | "set", [.int place, v] => done (setAt items place.toInt v)
  | "truncate", [.int n] => done (items.take n.toInt.toNat)
  | "chop", [.int n] => done (items.drop (items.length - n.toInt.toNat))
  | "pad", [.int n, v] => done (items ++ List.replicate (n.toInt.toNat - items.length) v)
  | "split", [.int place] =>
    let k := Slice.offsetOf items.length place.toInt
    some (.ok (items.take k, .arr (items.drop k)))
  | "splice", [.int start, .int n, .arr more] =>
    done (splice items (.ofStart items.length start.toInt n.toInt) more)
  | "splice", [r, .arr more] => (Slice.ofWindow? items.length [r]).bind fun s => done (splice items s more)
  | "retain", args =>
    (Slice.ofWindow? items.length args).map fun s =>
      .ok (if s.count = 0 then (items, .arr []) else (s.of items, .arr (s.outside items)))
  | "drain", args => (Slice.ofWindow? items.length args).map fun s => .ok (s.outside items, .arr (s.of items))
  | _, _ => none

end Arrays

namespace Maps

def call? (name : String) (entries : List (String × Value)) (args : List Value) : Option Value :=
  match name, args with
  | "is_empty", [] => some (.bool entries.isEmpty)
  | "contains", [.str k] => some (.bool (Fields.contains k entries))
  | "get", [.str k] => some ((Fields.get? k entries).getD .unit)
  | "keys", [] => some (.arr (entries.map fun e => .str e.1))
  | "values", [] => some (.arr (entries.map (·.2)))
  | "to_json", [] => some (.str (Value.jsonText entries))
  | _, _ => none

/-- Adds the entries of another map whose keys are new. -/
private def fillWith (entries others : List (String × Value)) : List (String × Value) :=
  Value.mergeEntries others entries

def update? (name : String) (entries : List (String × Value)) (args : List Value) :
    Option (List (String × Value) × Value) :=
  match name, args with
  | "set", [.str k, v] => some (Fields.insert k v entries, .unit)
  | "remove", [.str k] => some (Fields.erase k entries, (Fields.get? k entries).getD .unit)
  | "clear", [] => some ([], .unit)
  | "mixin", [.map more] => some (Value.mergeEntries entries more, .unit)
  | "fill_with", [.map more] => some (fillWith entries more, .unit)
  | _, _ => none

end Maps

end Sandscript.Library

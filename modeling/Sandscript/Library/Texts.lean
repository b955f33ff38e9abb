import Sandscript.Library.Slice
import Sandscript.Text.Blank
import Sandscript.Text.LetterCase
import Sandscript.Value.Operators

/-!
# Strings

The functions of the library on strings.  Places in a string are counted in characters.  `Texts.call?` holds those
that only read it, `Texts.update?` those that change it.
-/

namespace Sandscript.Library.Texts

private def ofChars (cs : List Char) : Value := .str (String.ofList cs)

private def ofCount (n : Nat) : Value := .int (Int64.ofNat n)

/-- The characters that a string or a character stands for. -/
def pattern? : Value → Option (List Char)
  | .str s => some s.toList
  | .char c => some [c]
  | _ => none

/-! ### Reading -/

/-- The place of the first `part` at or behind `start`, or -1. -/
private def indexFrom (part cs : List Char) (start : Nat) : Value :=
  match if cs.isEmpty then none else Value.indexOfChars? part (cs.drop start) with
  | some i => ofCount (start + i)
  | none => .int (-1)

private def indexOf (part cs : List Char) (start : Int) : Value :=
  if 0 < start ∧ (cs.length : Int) ≤ start then .int (-1) else indexFrom part cs (Slice.offsetOf cs.length start)

/-- The pieces between the places of `part`; at most `limit` pieces. -/
private def piecesFrom (part : List Char) : Nat → Nat → List Char → List Char → List (List Char)
  | _, _, piece, [] => [piece.reverse]
  | limit, skip + 1, piece, _ :: rest => piecesFrom part limit skip piece rest
  | limit, 0, piece, c :: rest =>
    if 1 < limit ∧ part.isPrefixOf (c :: rest) then
      piece.reverse :: piecesFrom part (limit - 1) (part.length - 1) [] rest
    else piecesFrom part limit 0 (c :: piece) rest

private def singles : Nat → List Char → List (List Char)
  | 0, cs => [cs]
  | 1, cs => [cs]
  | _ + 2, [] => [[]]
  | n + 2, c :: rest => [c] :: singles (n + 1) rest

/-- Splits a text at every place of `part`.  An empty part stands at both ends and between any two characters. -/
def split (part cs : List Char) (limit : Nat) : List (List Char) :=
  if part.isEmpty then (if limit ≤ 1 then [cs] else [] :: singles (limit - 1) cs) else piecesFrom part limit 0 [] cs

/-- As `split`, but `part` is looked for from the end, and the last piece comes first. -/
def splitRev (part cs : List Char) (limit : Nat) : List (List Char) :=
  (split part.reverse cs.reverse limit).map List.reverse

private def wordsFrom : List Char → List Char → List (List Char)
  | word, [] => if word.isEmpty then [] else [word.reverse]
  | word, c :: rest =>
    if Text.isBlankChar c then (if word.isEmpty then wordsFrom [] rest else word.reverse :: wordsFrom [] rest)
    else wordsFrom (c :: word) rest

/-- The runs of characters between white space. -/
def words (cs : List Char) : List (List Char) := wordsFrom [] cs

private def pieces (ps : List (List Char)) : Value := .arr (ps.map ofChars)

private def unlimited (cs : List Char) : Nat := cs.length + 2

/-- The number of pieces that are asked for; at least one. -/
private def limited (cs : List Char) (n : Int64) : Nat := max 1 (min n.toInt.toNat (unlimited cs))

private def getAt (cs : List Char) (i : Int) : Value :=
  (((Slice.place? cs.length i).bind (cs[·]?)).map .char).getD .unit

/-- The characters that arguments ask for; without any, all of them. -/
private def charsOf? (cs : List Char) : List Value → Option (List Char)
  | [] => some cs
  | args => (Slice.ofArgs? cs.length args).map fun r => r.of cs

def call? (name : String) (s : String) (args : List Value) : Option Value :=
  let cs := s.toList
  match name, args with
  | "bytes", [] => some (ofCount s.utf8ByteSize)
  | "is_empty", [] => some (.bool s.isEmpty)
  | "to_upper", [] => some (.str (Text.upper s))
  | "to_lower", [] => some (.str (Text.lower s))
  | "to_blob", [] => some (.blob s.toUTF8.toList)
  | "to_chars", [] => some (.arr (cs.map .char))
  | "contains", [v] => (pattern? v).map fun p => .bool (Value.indexOfChars? p cs).isSome
  | "starts_with", [v] => (pattern? v).map fun p => .bool (p.isPrefixOf cs)
  | "ends_with", [v] => (pattern? v).map fun p => .bool (p.isSuffixOf cs)
  | "index_of", [v] => (pattern? v).map fun p => indexOf p cs 0
  | "index_of", [v, .int start] => (pattern? v).map fun p => indexOf p cs start.toInt
  | "chars", args => (charsOf? cs args).map fun cs => .series (.chars cs)
  | "sub_string", args => (Slice.ofArgs? cs.length args).map fun r => ofChars (r.of cs)
  | "split", [] => some (pieces (words cs))
  | "get", [.int i] => some (getAt cs i.toInt)
  | "split", [.int n] =>
    let k := if n.toInt ≤ 0 then cs.length - n.toInt.natAbs else n.toInt.toNat
    some (pieces [cs.take k, cs.drop k])
  | "split", [v] => (pattern? v).map fun p => pieces (split p cs (unlimited cs))
  | "split", [v, .int n] => (pattern? v).map fun p => pieces (split p cs (limited cs n))
  | "split_rev", [v] => (pattern? v).map fun p => pieces (splitRev p cs (unlimited cs))
  | "split_rev", [v, .int n] => (pattern? v).map fun p => pieces (splitRev p cs (limited cs n))
  | _, _ => none

/-! ### Changing -/

private def padFrom (filler : List Char) : Nat → List Char → List Char
  | 0, cs => cs
  | n + 1, cs => padFrom filler n (cs ++ filler)

/-- The text continued with copies of `filler` to at least `n` characters, cut there. -/
private def pad (cs filler : List Char) (n : Nat) : List Char :=
  if n ≤ cs.length ∨ filler.isEmpty then cs
  else (padFrom filler ((n - cs.length + filler.length - 1) / filler.length) cs).take n

private def setAt (cs : List Char) (i : Int) (c : Char) : List Char :=
  match Slice.place? cs.length i with
  | some k => cs.set k c
  | none => cs

/-- What a value continues a string with. -/
private def appended : Value → String
  | .blob bytes => Value.decoded bytes
  | v => v.printed

/-- The new string and the result of the call. -/
def update? (name : String) (s : String) (args : List Value) : Option (Value × Value) :=
  let cs := s.toList
  match name, args with
  | "trim", [] => some (.str (Text.trim s), .unit)
  | "make_upper", [] => some (.str (Text.upper s), .unit)
  | "make_lower", [] => some (.str (Text.lower s), .unit)
  | "clear", [] => some (.str "", .unit)
  | "append", [v] => some (.str (s ++ appended v), .unit)
  | "pop", [] =>
    match cs.getLast? with
    | some c => some (ofChars cs.dropLast, .char c)
    | none => some (.str s, .unit)
  | "set", [.int i, .char c] => some (ofChars (setAt cs i.toInt c), .unit)
  | "truncate", [.int n] => some (ofChars (cs.take n.toInt.toNat), .unit)
  | "crop", args => (Slice.ofArgs? cs.length args).map fun r => (ofChars (r.of cs), .unit)
  | "pop", [.int n] =>
    let k := cs.length - n.toInt.toNat
    some (ofChars (cs.take k), ofChars (cs.drop k))
  | "remove", [v] =>
    (pattern? v).map fun p => (if p.isEmpty then .str s else ofChars (Value.replaceChars p [] cs), .unit)
  | "replace", [v, w] =>
    match pattern? v, pattern? w with
    | some p, some r => some (if cs.isEmpty then .str s else ofChars (Value.replaceChars p r cs), .unit)
    | _, _ => none
  | "pad", [.int n, v] => (pattern? v).map fun p => (ofChars (pad cs p n.toInt.toNat), .unit)
  | _, _ => none

/-! ### Characters -/

/-- The letter in another case, if that is a single letter too. -/
private def single (c : Char) (s : String) : Value :=
  match s.toList with
  | [d] => .char d
  | _ => .char c

def ofChar? (name : String) (c : Char) : Option Value :=
  match name with
  | "to_upper" => some (single c (Text.upper c.toString))
  | "to_lower" => some (single c (Text.lower c.toString))
  | _ => none

/-- The character that a function puts in the place of another one. -/
def updateChar? (name : String) (c : Char) : Option Value :=
  match name with
  | "make_upper" => ofChar? "to_upper" c
  | "make_lower" => ofChar? "to_lower" c
  | _ => none

end Sandscript.Library.Texts

import Sandscript.Json.Printer
import Sandscript.Json.Reader
import Sandscript.Text.Blank

/-!
# Reading records

Records come as one JSON array of objects, or as one object per line.  A text whose first character that is no white
space is `[` is read as an array.  In the other form blank lines are skipped but counted, and the first line that is
not an object is reported.
-/

namespace Sandscript.Records

inductive ReadError where
  | notAnArray (cause : Json.ReadError)
  | elementNotObject (index : Nat) (found : Json)
  | badLine (number : Nat) (cause : Json.ReadError)
  | lineNotObject (number : Nat) (found : Json)

/-- The messages of an error, the outermost first. -/
def ReadError.causes : ReadError → List String
  | .notAnArray cause => ["records must be a JSON array", cause.message]
  | .elementNotObject index found =>
    ["element " ++ toString index ++ ": expected an object, found " ++ found.compact]
  | .badLine number cause => ["line " ++ toString number ++ ": invalid JSON", cause.message]
  | .lineNotObject number found =>
    ["line " ++ toString number ++ ": expected an object, found " ++ found.compact]

def ReadError.message (e : ReadError) : String := ": ".intercalate e.causes

/-- The lines of a text.  A line ends in a line feed, with or without a carriage return before it, or with the
text. -/
def lines (cs : List Char) : List (List Char) := go [] cs
where
  go (line : List Char) : List Char → List (List Char)
    | [] => if line.isEmpty then [] else [line.reverse]
    | '\n' :: rest =>
      (match line with
       | '\r' :: l => l.reverse
       | l => l.reverse) :: go [] rest
    | c :: rest => go (c :: line) rest

def elements (index : Nat) : List Json → Except ReadError (List Record)
  | [] => .ok []
  | .obj r :: rest => do
    let rs ← elements (index + 1) rest
    .ok (r :: rs)
  | v :: _ => .error (.elementNotObject index v)

def fromLines (number : Nat) : List (List Char) → Except ReadError (List Record)
  | [] => .ok []
  | line :: rest =>
    if line.all Text.isBlankChar then fromLines (number + 1) rest
    else
      match Json.read (String.ofList line) with
      | .error e => .error (.badLine number e)
      | .ok (.obj r) => do
        let rs ← fromLines (number + 1) rest
        .ok (r :: rs)
      | .ok v => .error (.lineNotObject number v)

def read (text : String) : Except ReadError (List Record) :=
  match Text.trimLeft text.toList with
  | '[' :: _ =>
    match Json.read text with
    | .error e => .error (.notAnArray e)
    | .ok (.arr items) => elements 0 items
    | .ok v => elements 0 [v]
  | _ => fromLines 1 (lines text.toList)

/-- The text of a records file: an indented JSON array. -/
def write (records : List Record) : String := (Json.arr (records.map Json.obj)).pretty

end Sandscript.Records

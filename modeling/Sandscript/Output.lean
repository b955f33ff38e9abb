import Sandscript.Errors
import Sandscript.Json.Printer
import Sandscript.Text.Blank
import Sandscript.Text.LetterCase

/-!
# Report formats

A report is a JSON value and can be written as indented JSON, as JSON on one line, or as an outline.  The outline has
one line per entry: two spaces a level, then the key and a colon, or a dash for the items of an array.  Empty
containers stand on the line of their entry.  Colours only wrap keys, numbers, words and empty containers.
-/

namespace Sandscript

inductive OutputFormat where
  | json
  | text
  | pretty
deriving DecidableEq, Repr, Inhabited

namespace OutputFormat

def name : OutputFormat → String
  | json => "json"
  | text => "text"
  | pretty => "pretty"

/-- Reads a format name in any case. -/
def ofName (s : String) : Except EngineError OutputFormat :=
  match [json, text, pretty].find? (·.name == Text.lower s) with
  | some f => .ok f
  | none => .error (.invalidArgument ("invalid output format: '" ++ s ++ "' (expected: json, text, or pretty)"))

end OutputFormat

namespace Outline

/-- A text style: the parameters of its escape sequence. -/
structure Style where
  parameters : String

def reset : List Char := [Char.ofNat 27, '[', '0', 'm']

def Style.start (s : Style) : List Char := Char.ofNat 27 :: '[' :: s.parameters.toList ++ ['m']

/-- Starts the style again behind every reset inside a text. -/
def restart (s : Style) : List Char → List Char
  | a :: '[' :: '0' :: 'm' :: rest =>
    if a.toNat = 27 then reset ++ s.start ++ restart s rest
    else a :: restart s ('[' :: '0' :: 'm' :: rest)
  | c :: rest => c :: restart s rest
  | [] => []

def Style.paint (s : Style) (color : Bool) (text : List Char) : List Char :=
  if color then s.start ++ restart s text ++ reset else text

def keyStyle : Style := ⟨"1;34"⟩
def dimStyle : Style := ⟨"2"⟩
def trueStyle : Style := ⟨"32"⟩
def falseStyle : Style := ⟨"31"⟩
def numberStyle : Style := ⟨"36"⟩

/-- The text of a value that does not open a block. -/
def scalar (color : Bool) : Json → List Char
  | .null => dimStyle.paint color "null".toList
  | .bool true => trueStyle.paint color "true".toList
  | .bool false => falseStyle.paint color "false".toList
  | .num n => numberStyle.paint color n.chars
  | .str s => s.toList
  | .arr _ => dimStyle.paint color ['[', ']']
  | .obj _ => dimStyle.paint color ['\x7b', '\x7d']

/-- A container that is not empty opens a block of its own. -/
def isNested : Json → Bool
  | .arr (_ :: _) => true
  | .obj (_ :: _) => true
  | _ => false

def indent (depth : Nat) : List Char := List.replicate (2 * depth) ' '

mutual

/-- The lines of a block. -/
def block (color : Bool) (depth : Nat) : Json → List (List Char)
  | .obj fields => fieldLines color depth fields
  | .arr items => itemLines color depth items
  | v => [indent depth ++ scalar color v]

def fieldLines (color : Bool) (depth : Nat) : List (String × Json) → List (List Char)
  | [] => []
  | (k, v) :: rest =>
    let key := indent depth ++ keyStyle.paint color k.toList ++ [':']
    (if isNested v then key :: block color (depth + 1) v else [key ++ ' ' :: scalar color v]) ++
      fieldLines color depth rest

def itemLines (color : Bool) (depth : Nat) : List Json → List (List Char)
  | [] => []
  | v :: rest =>
    let dash := indent depth ++ ['-']
    (if isNested v then dash :: block color (depth + 1) v else [dash ++ ' ' :: scalar color v]) ++
      itemLines color depth rest

end

/-- The outline without white space at its end. -/
def render (color : Bool) (v : Json) : String :=
  let chars := match v with
    | .obj _ | .arr _ => (block color 0 v).flatMap (· ++ ['\n'])
    | _ => scalar color v
  String.ofList (Text.trimRight chars)

end Outline

namespace Json

mutual

/-- The same value with the fields of every object in ascending order. -/
def sorted : Json → Json
  | arr items => arr (sortedItems items)
  | obj fields => obj (sortedFields fields)
  | v => v

def sortedItems : List Json → List Json
  | [] => []
  | v :: rest => sorted v :: sortedItems rest

def sortedFields : List (String × Json) → List (String × Json)
  | [] => []
  | (k, v) :: rest => Fields.insert k (sorted v) (sortedFields rest)

end

/-- A report in the given format.  JSON keeps the order in which the report lists its fields, an outline sorts them. -/
def format (v : Json) (f : OutputFormat) (color : Bool) : String :=
  match f with
  | .json => v.pretty
  | .text => v.compact
  | .pretty => Outline.render color v.sorted

end Json

end Sandscript

import Sandscript.Numeric.Shortest
import Sandscript.Text.Hex
import Sandscript.Text.Quoted
import Sandscript.Value.Basic

/-!
# The text of values

A value is written in one of two forms.  Inside a container, and where a script asks for it, strings and characters
stand in quotes; on their own they are written as they are, and `()` is nothing.  A series is written as the name of
its kind, which what prints gives in short.
-/

namespace Sandscript.Value

/-- The upper bound of a range; a range up to the greatest integer is open. -/
private def boundChars (hi : Int64) : List Char := if hi = Int64.maxValue then [] else (toString hi.toInt).toList

private def between (before after : List Char) (items : List (List Char)) : List Char :=
  before ++ [',', ' '].intercalate items ++ after

mutual

/-- The form that a value has inside a container; `short` says how kinds are named. -/
def nestedChars (short : Bool) : Value → List Char
  | unit => ['(', ')']
  | bool b => (toString b).toList
  | int n => (toString n.toInt).toList
  | float x => FloatLayout.script.chars x
  | dec d => d.chars
  | char c => (Text.quotedChar c).toList
  | str s => (Text.quoted s).toList
  | arr items => between ['['] [']'] (nestedItems short items)
  | map entries => between ['#', '\x7b'] ['\x7d'] (nestedEntries short entries)
  | blob bytes => '[' :: bytes.flatMap (fun b => Text.hexByte b.toNat) ++ [']']
  | fn name held => between "Fn(".toList [')'] (name.toList :: nestedItems false held)
  | range lo hi => (toString lo.toInt).toList ++ ['.', '.'] ++ boundChars hi
  | rangeIncl lo hi => (toString lo.toInt).toList ++ ['.', '.', '='] ++ boundChars hi
  | series s => (if short then s.typeName else s.fullTypeName).toList

def nestedItems (short : Bool) : List Value → List (List Char)
  | [] => []
  | v :: rest => nestedChars short v :: nestedItems short rest

def nestedEntries (short : Bool) : List (String × Value) → List (List Char)
  | [] => []
  | (k, v) :: rest =>
    ((Text.quoted k).toList ++ [':', ' '] ++ nestedChars short v) :: nestedEntries short rest

end

/-- The form with quotes. -/
def nestedText (short : Bool) (v : Value) : String := String.ofList (v.nestedChars short)

private def ownText (short : Bool) : Value → String
  | unit => ""
  | char c => c.toString
  | str s => s
  | fn name _ => "Fn(" ++ name ++ ")"
  | v => v.nestedText short

/-- The form that a value has on its own. -/
def text (v : Value) : String := v.ownText false

/-- The form in which a value is printed and put together with texts. -/
def printed (v : Value) : String := v.ownText true

/-! ### Maps as JSON -/

mutual

private def jsonChars : Value → List Char
  | unit => "null".toList
  | map entries => '\x7b' :: [','].intercalate (jsonEntries entries) ++ ['\x7d']
  | v => v.nestedChars false

private def jsonEntries : List (String × Value) → List (List Char)
  | [] => []
  | (k, v) :: rest => ((Text.quoted k).toList ++ ':' :: jsonChars v) :: jsonEntries rest

end

/-- A map in the way of JSON.  Only maps and `()` take the form that they have there. -/
def jsonText (entries : List (String × Value)) : String := String.ofList (jsonChars (map entries))

end Sandscript.Value

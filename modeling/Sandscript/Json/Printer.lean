import Sandscript.Json.Basic
import Sandscript.Numeric.Shortest
import Sandscript.Text.Hex

/-!
# Writing JSON

Two layouts: `compact`, without any space, and `pretty`, with one entry a line and two spaces a level.  An empty
container is written as its two brackets in either layout.
-/

namespace Sandscript

namespace JsonNumber

def chars : JsonNumber → List Char
  | .int n _ => (if n < 0 then ['-'] else []) ++ Numeric.digits n.natAbs
  | .float x _ => FloatLayout.interchange.chars x

def text (n : JsonNumber) : String := String.ofList n.chars

end JsonNumber

namespace Json

/-- One character of a string: quotes, backslashes and control characters are escaped. -/
def escapeChar (c : Char) : List Char :=
  if c == '"' || c == '\\' then ['\\', c]
  else if c == '\n' then ['\\', 'n']
  else if c == '\r' then ['\\', 'r']
  else if c == '\t' then ['\\', 't']
  else if c.toNat == 8 then ['\\', 'b']
  else if c.toNat == 12 then ['\\', 'f']
  else if c.toNat < 32 then ['\\', 'u', '0', '0'] ++ Text.hexByte c.toNat
  else [c]

def quote (s : String) : List Char := '"' :: s.toList.flatMap escapeChar ++ ['"']

mutual

def compactChars : Json → List Char
  | null => "null".toList
  | bool true => "true".toList
  | bool false => "false".toList
  | num n => n.chars
  | str s => quote s
  | arr items => '[' :: compactItems items ++ [']']
  | obj fields => '\x7b' :: compactFields fields ++ ['\x7d']

def compactItems : List Json → List Char
  | [] => []
  | [v] => compactChars v
  | v :: rest => compactChars v ++ ',' :: compactItems rest

def compactFields : List (String × Json) → List Char
  | [] => []
  | [(k, v)] => quote k ++ ':' :: compactChars v
  | (k, v) :: rest => quote k ++ ':' :: compactChars v ++ ',' :: compactFields rest

end

def compact (v : Json) : String := String.ofList v.compactChars

def newline (depth : Nat) : List Char := '\n' :: List.replicate (2 * depth) ' '

mutual

def prettyChars (depth : Nat) : Json → List Char
  | arr [] => ['[', ']']
  | arr items => '[' :: prettyItems (depth + 1) items ++ newline depth ++ [']']
  | obj [] => ['\x7b', '\x7d']
  | obj fields => '\x7b' :: prettyFields (depth + 1) fields ++ newline depth ++ ['\x7d']
  | v => compactChars v

def prettyItems (depth : Nat) : List Json → List Char
  | [] => []
  | [v] => newline depth ++ prettyChars depth v
  | v :: rest => newline depth ++ prettyChars depth v ++ ',' :: prettyItems depth rest

def prettyFields (depth : Nat) : List (String × Json) → List Char
  | [] => []
  | [(k, v)] => newline depth ++ quote k ++ [':', ' '] ++ prettyChars depth v
  | (k, v) :: rest => newline depth ++ quote k ++ [':', ' '] ++ prettyChars depth v ++ ',' :: prettyFields depth rest

end

def pretty (v : Json) : String := String.ofList (v.prettyChars 0)

end Json

end Sandscript

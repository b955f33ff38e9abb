import Sandscript.Text.Hex

/-!
# Strings of a settings file

How a string is written: between double quotes if nothing in it needs an escape, else between single quotes if it
holds none, else over several lines, and with escapes only when no other form is possible.
-/

namespace Sandscript.Toml

/-- What decides the form of a string. -/
structure Shape where
  /-- The longest run of single quotes. -/
  singleRun : Nat := 0
  /-- The longest run of double quotes. -/
  doubleRun : Nat := 0
  /-- There are control characters other than tab and line feed. -/
  control : Bool := false
  /-- There are backslashes. -/
  backslash : Bool := false
  /-- There are line feeds. -/
  newline : Bool := false

/-- Counts a character: the length of the run that ends with it, and that of the longest run so far. -/
def countRun (q : Char) (p : Nat × Nat) (c : Char) : Nat × Nat :=
  let run := if c == q then p.1 + 1 else 0
  (run, max p.2 run)

def longestRun (q : Char) (s : List Char) : Nat := (s.foldl (countRun q) (0, 0)).2

def isControl (c : Char) : Bool := (c.toNat < 0x20 && c != '\t' && c != '\n') || c.toNat == 0x7F

def apostrophe : Char := Char.ofNat 39

def Shape.of (s : List Char) : Shape :=
  { singleRun := longestRun apostrophe s, doubleRun := longestRun '"' s, control := s.any isControl,
    backslash := s.contains '\\', newline := s.contains '\n' }

/-- The characters of a string with escapes.  Over several lines a line feed stands for itself, and so do up to two
double quotes in a row, `run` of which have just been written. -/
def escaped (multiline : Bool) (run : Nat) : List Char → List Char
  | [] => []
  | c :: rest =>
    if c == '"' then
      if (if multiline then 2 else 0) < run + 1 then '\\' :: '"' :: escaped multiline 0 rest
      else '"' :: escaped multiline (run + 1) rest
    else if c == '\n' && multiline then '\n' :: escaped multiline 0 rest
    else
      let short (x : Char) : List Char := '\\' :: x :: escaped multiline 0 rest
      if c.toNat == 8 then short 'b'
      else if c == '\t' then short 't'
      else if c == '\n' then short 'n'
      else if c.toNat == 12 then short 'f'
      else if c == '\r' then short 'r'
      else if c == '\\' then short '\\'
      else if c.toNat < 0x20 || c.toNat == 0x7F then
        '\\' :: 'u' :: '0' :: '0' :: (Text.hexByte c.toNat).map Char.toUpper ++ escaped multiline 0 rest
      else c :: escaped multiline 0 rest

def triple (q : Char) : List Char := [q, q, q]

def basic (s : List Char) : List Char := '"' :: escaped false 0 s ++ ['"']

def literal (s : List Char) : List Char := apostrophe :: s ++ [apostrophe]

def multilineBasic (newline : Bool) (s : List Char) : List Char :=
  triple '"' ++ (if newline then ['\n'] else []) ++ escaped true 0 s ++ triple '"'

def multilineLiteral (newline : Bool) (s : List Char) : List Char :=
  triple apostrophe ++ (if newline then ['\n'] else []) ++ s ++ triple apostrophe

def stringChars (s : List Char) : List Char :=
  let m := Shape.of s
  if !m.control && !m.backslash && m.doubleRun = 0 && !m.newline then basic s
  else if !m.control && m.singleRun = 0 && !m.newline then literal s
  else if !m.control && !m.backslash && m.doubleRun ≤ 2 then multilineBasic m.newline s
  else if !m.control && m.singleRun ≤ 2 then multilineLiteral m.newline s
  else if m.newline then multilineBasic true s
  else basic s

end Sandscript.Toml

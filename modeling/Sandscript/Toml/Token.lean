import Sandscript.Datum
import Sandscript.Toml.Strings

/-!
# Tokens of a settings file

A settings file is cut into tokens that carry their characters and the place where they start; the characters of all
tokens make up the file.  What is neither punctuation nor a string nor blank is an atom: bare keys, numbers, dates and
words.
-/

namespace Sandscript.Toml

inductive TokenKind where
  | dot
  | equals
  | comma
  | openBracket
  | closeBracket
  | openBrace
  | closeBrace
  | blank
  | comment
  | newline
  | literal
  | basic
  | multilineLiteral
  | multilineBasic
  | atom
deriving DecidableEq, Repr, Inhabited

structure Token where
  kind : TokenKind
  start : Nat
  chars : List Char
deriving Repr

namespace Token

def stop (t : Token) : Nat := t.start + t.chars.length

def span (t : Token) : Span := ⟨t.start, t.stop⟩

end Token

def startsToken (c : Char) : Bool :=
  c == '.' || c == '=' || c == ',' || c == '[' || c == ']' || c == '\x7b' || c == '\x7d' || c == ' ' || c == '\t' ||
    c == '#' || c == '\n' || c == '\r'

def isSpace (c : Char) : Bool := c == ' ' || c == '\t'

/-- The characters of a one-line string behind its opening quote; it ends at its closing quote or with the line. -/
def takeString (quote : Char) (escapes : Bool) : List Char → List Char
  | [] => []
  | c :: rest =>
    if c == quote then [c]
    else if c == '\n' then []
    else if c == '\\' && escapes then
      match rest with
      | [] => [c]
      | d :: rest => if d == '\n' then [c] else c :: d :: takeString quote escapes rest
    else c :: takeString quote escapes rest

/-- The characters of a string over several lines behind its opening quotes; up to two quotes may stand before the
closing ones. -/
def takeLongString (quote : Char) (escapes : Bool) : List Char → List Char
  | [] => []
  | c :: rest =>
    if c == quote then
      let run := (c :: rest).takeWhile (· == quote)
      if 3 ≤ run.length then run.take 5 else c :: takeLongString quote escapes rest
    else if c == '\\' && escapes then
      match rest with
      | [] => [c]
      | d :: rest => c :: d :: takeLongString quote escapes rest
    else c :: takeLongString quote escapes rest

/-- The first token of a text that is not empty. -/
def firstToken (start : Nat) (c : Char) (rest : List Char) : Token :=
  let one (k : TokenKind) : Token := { kind := k, start, chars := [c] }
  let string (quote : Char) (escapes : Bool) (short long : TokenKind) : Token :=
    match rest with
    | a :: b :: more =>
      if a == quote && b == quote then
        { kind := long, start, chars := c :: a :: b :: takeLongString quote escapes more }
      else { kind := short, start, chars := c :: takeString quote escapes rest }
    | _ => { kind := short, start, chars := c :: takeString quote escapes rest }
  if c == '.' then one .dot
  else if c == '=' then one .equals
  else if c == ',' then one .comma
  else if c == '[' then one .openBracket
  else if c == ']' then one .closeBracket
  else if c == '\x7b' then one .openBrace
  else if c == '\x7d' then one .closeBrace
  else if c == '\n' then one .newline
  else if c == '\r' then
    { kind := .newline, start, chars := if rest.head? == some '\n' then [c, '\n'] else [c] }
  else if isSpace c then { kind := .blank, start, chars := c :: rest.takeWhile isSpace }
  else if c == '#' then
    { kind := .comment, start, chars := c :: rest.takeWhile fun d => d != '\n' && d != '\r' }
  else if c == '"' then string '"' true .basic .multilineBasic
  else if c == apostrophe then string apostrophe false .literal .multilineLiteral
  else { kind := .atom, start, chars := c :: rest.takeWhile (!startsToken ·) }

/-- The tokens of a text that starts at the given place. -/
def tokens (start : Nat) (cs : List Char) : List Token :=
  match cs with
  | [] => []
  | c :: rest =>
    let t := firstToken start c rest
    let read := max t.chars.length 1
    t :: tokens (start + read) ((c :: rest).drop read)
termination_by cs.length
decreasing_by simp only [List.length_drop, List.length_cons]; omega

end Sandscript.Toml

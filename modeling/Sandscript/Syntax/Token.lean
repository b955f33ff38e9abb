import Sandscript.Numeric.Binary64
import Sandscript.Syntax.Fault

/-!
# Tokens

The words and symbols of the language, and how tightly its operators bind.
-/

namespace Sandscript

/-- Operators between two operands. -/
inductive BinaryOp where
  | add | sub | mul | div | rem | pow
  | shl | shr | band | bor | bxor
  | eq | ne | lt | le | gt | ge
  | and | or | coalesce
  | range | rangeIncl
  | within | notWithin
deriving DecidableEq, Repr

namespace BinaryOp

def spelling : BinaryOp → String
  | add => "+" | sub => "-" | mul => "*" | div => "/" | rem => "%" | pow => "**"
  | shl => "<<" | shr => ">>" | band => "&" | bor => "|" | bxor => "^"
  | eq => "==" | ne => "!=" | lt => "<" | le => "<=" | gt => ">" | ge => ">="
  | and => "&&" | or => "||" | coalesce => "??"
  | range => ".." | rangeIncl => "..="
  | within => "in" | notWithin => "!in"

/-- The greater of two precedences binds first. -/
def precedence : BinaryOp → Nat
  | or | bxor | bor => 30
  | and | band => 60
  | eq | ne => 90
  | within | notWithin => 110
  | lt | le | gt | ge => 130
  | coalesce => 135
  | range | rangeIncl => 140
  | add | sub => 150
  | mul | div | rem => 180
  | pow => 190
  | shl | shr => 210

def bindsRight (op : BinaryOp) : Bool := op == pow

end BinaryOp

inductive Keyword where
  | trueKw | falseKw | letKw | constKw | ifKw | elseKw | switchKw | doKw | whileKw
  | untilKw | loopKw | forKw | continueKw | breakKw | returnKw | throwKw | tryKw | catchKw
  | fnKw | privateKw | importKw | exportKw | asKw
deriving DecidableEq, Repr

namespace Keyword

def spelling : Keyword → String
  | trueKw => "true" | falseKw => "false" | letKw => "let" | constKw => "const" | ifKw => "if"
  | elseKw => "else" | switchKw => "switch" | doKw => "do" | whileKw => "while" | untilKw => "until"
  | loopKw => "loop" | forKw => "for" | continueKw => "continue" | breakKw => "break" | returnKw => "return"
  | throwKw => "throw" | tryKw => "try" | catchKw => "catch" | fnKw => "fn" | privateKw => "private"
  | importKw => "import" | exportKw => "export" | asKw => "as"

def all : List Keyword :=
  [trueKw, falseKw, letKw, constKw, ifKw, elseKw, switchKw, doKw, whileKw,
   untilKw, loopKw, forKw, continueKw, breakKw, returnKw, throwKw, tryKw, catchKw,
   fnKw, privateKw, importKw, exportKw, asKw]

def ofWord? (s : String) : Option Keyword := all.find? (·.spelling == s)

end Keyword

/-- Symbols that are no operators between two operands. -/
inductive Symbol where
  | leftBrace | rightBrace | leftParen | rightParen | leftBracket | rightBracket | optionalBracket | emptyParens
  | mapStart | semicolon | colon | doubleColon | comma | period | optionalPeriod | arrow | not | assign | underscore
deriving DecidableEq, Repr

namespace Symbol

def spelling : Symbol → String
  | leftBrace => "\x7b" | rightBrace => "\x7d" | leftParen => "(" | rightParen => ")" | leftBracket => "["
  | rightBracket => "]" | optionalBracket => "?[" | emptyParens => "()" | mapStart => "#\x7b" | semicolon => ";"
  | colon => ":" | doubleColon => "::" | comma => "," | period => "." | optionalPeriod => "?." | arrow => "=>"
  | not => "!" | assign => "=" | underscore => "_"

end Symbol

inductive Token where
  | int (n : Int64)
  | float (x : Binary64)
  | char (c : Char)
  | str (s : String)
  /-- The text up to an interpolated block, whose tokens follow. -/
  | openStr (s : String)
  | name (s : String)
  | keyword (k : Keyword)
  | symbol (s : Symbol)
  | operator (op : BinaryOp)
  /-- `=` with an operator in front. -/
  | assignment (op : BinaryOp)
  /-- A sign in front of its only operand. -/
  | sign (negative : Bool)
  /-- A word or symbol that the language keeps for itself. -/
  | reserved (text : String)
  | bad (fault : SyntaxFault)
  | finish
deriving DecidableEq, Repr, Inhabited

namespace Token

/-- The spelling of a token that starts no expression. -/
def spelling : Token → String
  | keyword k => k.spelling
  | symbol s => s.spelling
  | operator op => op.spelling
  | assignment op => op.spelling ++ "="
  | sign negative => if negative then "-" else "+"
  | reserved text | name text => text
  | int n => toString n.toInt
  | char c => c.toString
  | float _ => "float"
  | str _ | openStr _ => "string"
  | bad fault => fault.message
  | finish => "\x7bEOF\x7d"

/-- After these a `+` or a `-` is a sign. -/
def beforeSign : Token → Bool
  | symbol .semicolon | symbol .colon | symbol .comma | symbol .leftBrace | symbol .leftParen | symbol .leftBracket
  | symbol .assign | symbol .arrow | symbol .not => true
  | keyword .returnKw | keyword .throwKw => true
  | operator _ | assignment _ | sign _ | bad _ => true
  | _ => false

end Token

/-- A token and the place of its first character. -/
structure Located where
  token : Token
  position : Position
deriving DecidableEq, Repr, Inhabited

/-! ### Reserved words -/

namespace Names

def reservedWords : List String :=
  ["async", "await", "call", "case", "curry", "debug", "default", "eval", "Fn", "go", "goto", "is", "is_def_fn",
   "is_def_var", "is_shared", "match", "module", "new", "nil", "null", "package", "print", "protected", "public",
   "shared", "spawn", "static", "super", "sync", "this", "thread", "type_of", "use", "var", "void", "with", "yield"]

/-- Reserved words that name a function. -/
def reservedFunctions : List String :=
  ["call", "curry", "type_of", "Fn", "eval", "is_def_var", "is_def_fn", "is_shared", "print", "debug"]

/-- Reserved words that name a method. -/
def reservedMethods : List String := ["call", "curry", "type_of", "is_shared"]

end Names

end Sandscript

import Sandscript.Syntax.Token
import Sandscript.Value.Basic

/-!
# Syntax trees

A script is a list of statements and the functions it defines; closures are functions too, with a name of their own.
What follows an expression, be it a property, a subscript or a method call, is a link of a chain.
-/

namespace Sandscript

inductive UnaryOp where
  | plus
  | minus
  | not
deriving DecidableEq, Repr

namespace UnaryOp

def spelling : UnaryOp → String
  | plus => "+"
  | minus => "-"
  | not => "!"

end UnaryOp

/-- What a switch case may be compared with. -/
inductive Label where
  | value (v : Value)
  | range (lo hi : Int64) (inclusive : Bool)
deriving Inhabited

mutual

inductive Expr where
  | literal (pos : Position) (value : Value)
  /-- A text with blocks in it. -/
  | text (pos : Position) (pieces : List Expr)
  | array (pos : Position) (items : List Expr)
  | map (pos : Position) (entries : List (String × Expr))
  | var (pos : Position) (name : String)
  /-- A name of a namespace; `root` is the place of the first part of the path. -/
  | qualified (pos root : Position) (path : List String) (name : String)
  | this (pos : Position)
  /-- A closure that uses variables of the scopes around it. -/
  | capture (pos : Position) (function : String) (outer : List String)
  | unary (pos : Position) (op : UnaryOp) (arg : Expr)
  | binary (pos : Position) (op : BinaryOp) (lhs rhs : Expr)
  /-- A call; with `inScope` it runs in the scope of the caller. -/
  | call (pos : Position) (path : List String) (name : String) (inScope : Bool) (args : List Expr)
  | chain (pos : Position) (root : Expr) (links : List Link)
  /-- A statement used for its value. -/
  | statement (s : Stmt)

/-- One step from a value to a part of it; `op` is the place of the period or bracket.  An optional link of `()` is
`()`. -/
inductive Link where
  | property (op pos : Position) (optional : Bool) (name : String)
  | index (op : Position) (optional : Bool) (key : Expr)
  | method (op pos : Position) (optional : Bool) (name : String) (args : List Expr)

inductive Stmt where
  | expr (e : Expr)
  /-- An exported declaration declares a variable like any other. -/
  | declare (pos : Position) (exported constant : Bool) (name : String) (value : Option Expr)
  /-- An assignment, with an operator or without. -/
  | assign (pos : Position) (op : Option BinaryOp) (target value : Expr)
  | block (pos : Position) (body : List Stmt)
  | ifElse (pos : Position) (condition : Expr) (yes no : List Stmt)
  | switch (pos : Position) (subject : Expr) (cases : List Case) (otherwise : Option Stmt)
  /-- A loop; without a condition it runs until it is left. -/
  | whileLoop (pos : Position) (condition : Option Expr) (bodyPos : Position) (body : List Stmt)
  /-- A loop whose condition follows its body; it is repeated as long as the condition has the value `repeats`. -/
  | doWhile (pos : Position) (repeats : Bool) (body : List Stmt) (condition : Expr)
  | forIn (pos : Position) (item : String) (counter : Option String) (source : Expr) (bodyPos : Position)
    (body : List Stmt)
  | breakLoop (pos : Position) (value : Option Expr)
  | continueLoop (pos : Position)
  | returnValue (pos : Position) (value : Option Expr)
  | throwValue (pos : Position) (value : Option Expr)
  | tryCatch (pos : Position) (body : List Stmt) (error : Option String) (handler : List Stmt)
  | importModule (pos : Position) (path : Expr) (newName : Option String)
  | exportName (pos : Position) (name : String) (newName : Option String)

inductive Case where
  | mk (labels : List Label) (guard : Option Expr) (action : Stmt)

end

structure FunctionDef where
  name : String
  parameters : List String
  body : List Stmt
  isClosure : Bool := false

structure Program where
  main : List Stmt
  /-- The functions in the order in which their definitions end. -/
  functions : List FunctionDef

instance : Inhabited Expr := ⟨.literal .none .unit⟩
instance : Inhabited Stmt := ⟨.block .none []⟩

/-- The place of the first token of a statement that is no expression. -/
def Stmt.position : Stmt → Position
  | .expr _ => .none
  | .declare p .. | .assign p .. | .block p _ | .ifElse p .. | .switch p .. | .whileLoop p .. | .doWhile p ..
  | .forIn p .. | .breakLoop p _ | .continueLoop p | .returnValue p _ | .throwValue p _ | .tryCatch p ..
  | .importModule p .. | .exportName p .. => p

/-- The place that names an expression: that of its own token. -/
def Expr.position : Expr → Position
  | .literal p _ | .text p _ | .array p _ | .map p _ | .var p _ | .qualified p .. | .this p | .capture p ..
  | .unary p .. | .binary p .. | .call p .. | .chain p .. => p
  | .statement s => s.position

namespace Expr

/-- Whether an expression is one of the chains `&&`, `||` and `??`, or any other use of an operator. -/
def isUseOf (op : BinaryOp) : Expr → Bool
  | .binary _ op' _ _ => op' = op
  | _ => false

end Expr

/-- The operators that look at their second operand only where the first one leaves the result open. -/
def BinaryOp.isLazy : BinaryOp → Bool
  | and | or | coalesce => true
  | _ => false

/-- The use of an operator at `pos`.  A chain of one lazy operator stands at the place of its first one, and the
membership operators are calls of the function `contains`. -/
def Expr.ofOperator (pos : Position) (op : BinaryOp) (lhs rhs : Expr) : Expr :=
  let membership : Expr := .call pos [] "contains" false [rhs, lhs]
  match op with
  | .within => membership
  | .notWithin => .unary pos .not membership
  | op => .binary (if op.isLazy && lhs.isUseOf op then lhs.position else pos) op lhs rhs

end Sandscript
